import Promptbook.Files.Path
import Promptbook.Substitution.Source

/-! The arguments of the command line.

An invocation names one command, which has options and at most one operand of its own.
Three options may stand before the command as well as behind it, and what is given
behind it counts. Arguments are read from left to right, and the first mistake, or the
first request for help or for the version, decides. -/
namespace Promptbook.CommandLine
open Substitution (Registers)

/-! ### Commands -/

inductive CommandName where
  | list
  | show
  | check
  | render
  | export
  deriving DecidableEq

namespace CommandName

def all : List CommandName := [.list, .show, .check, .render, .export]

def text : CommandName → String
  | .list => "list"
  | .show => "show"
  | .check => "check"
  | .render => "render"
  | .export => "export"

def ofText? (text : String) : Option CommandName := all.find? (·.text = text)

/-- Whether the command has an operand, which then must be given. -/
def hasOperand : CommandName → Bool
  | .list | .check => false
  | .show | .render | .export => true

end CommandName

/-- What to do. -/
inductive Command where
  | list (json : Bool)
  | show (name : String)
  | check
  | render (name filetype : String) (registers : Registers) (json : Bool)
  | export (file : Path)
  deriving DecidableEq

/-- A command and where the prompts are looked for. -/
structure Invocation where
  command : Command
  root : Option Path := none
  /-- Directories that are visited behind those of the configuration. -/
  dirs : List Path := []
  deriving DecidableEq

/-! ### Options -/

inductive OptionName where
  | root
  | dir
  | verbose
  | json
  | filetype
  | register
  | help
  | version
  deriving DecidableEq

namespace OptionName

/-- An option by its long name. -/
def ofLong? : String → Option OptionName
  | "root" => some .root
  | "dir" => some .dir
  | "verbose" => some .verbose
  | "json" => some .json
  | "filetype" => some .filetype
  | "register" => some .register
  | "help" => some .help
  | "version" => some .version
  | _ => none

/-- An option by its letter. -/
def ofLetter? : Char → Option OptionName
  | 'v' => some .verbose
  | 'h' => some .help
  | 'V' => some .version
  | _ => none

def hasValue : OptionName → Bool
  | .root | .dir | .filetype | .register => true
  | _ => false

/-- Whether the option may be given more than once. -/
def repeats : OptionName → Bool
  | .dir | .register => true
  | _ => false

/-- Whether the option is known behind a command, or before it. -/
def isKnown (command : Option CommandName) : OptionName → Bool
  | .json => command = some .list || command = some .render
  | .filetype | .register => command = some .render
  | _ => true

/-- Whether an option takes this value. -/
def accepts (option : OptionName) (value : String) : Bool :=
  match option with
  | .root | .dir => value ≠ ""
  | .register =>
    match value.toList with
    | _ :: '=' :: _ => value.toList.head? ≠ some '='
    | _ => false
  | _ => true

end OptionName

/-! ### Reading -/

/-- Why arguments name no invocation. -/
inductive Ending where
  /-- The arguments are wrong. -/
  | usage
  | help
  /-- The version was asked for, behind a command or before one. -/
  | version (command : Option CommandName)
  deriving DecidableEq

/-- What has been read before a command or behind one. -/
structure Level where
  command : Option CommandName := none
  /-- The options with their values, the first given first. -/
  options : List (OptionName × String) := []
  operand : Option String := none
  /-- Whether only operands follow. -/
  operandsOnly : Bool := false

namespace Level

/-- The level with one more option; a flag has no value. -/
def give (level : Level) (option : OptionName) (value : String) : Except Ending Level :=
  if option = .help then .error .help
  else if option = .version then .error (.version level.command)
  else if !option.repeats && level.options.any (·.1 = option) then .error .usage
  else if option.accepts value then .ok { level with options := level.options ++ [(option, value)] }
  else .error .usage

/-- Reads letters behind one hyphen. -/
def letters (level : Level) : List Char → Except Ending Level
  | [] => .ok level
  | c :: rest =>
    match OptionName.ofLetter? c with
    | none => .error .usage
    | some option =>
      match level.give option "" with
      | .ok level => level.letters rest
      | .error ending => .error ending

def giveOperand (level : Level) (operand : String) : Except Ending Level :=
  if (level.command.map CommandName.hasOperand).getD false && level.operand.isNone &&
      !(level.command = some .export && operand = "") then
    .ok { level with operand := some operand }
  else .error .usage

def values (level : Level) (option : OptionName) : List String :=
  (level.options.filter (·.1 = option)).map Prod.snd

end Level

/-- The name and the value of a long option, from behind its hyphens. -/
def splitLong (text : List Char) : String × Option String :=
  match text.span (· != '=') with
  | (name, _ :: value) => (String.ofList name, some (String.ofList value))
  | (name, []) => (String.ofList name, none)

/-- Whether an argument may be the value of the option before it. -/
def isValue (argument : String) : Bool :=
  match argument.toList with
  | '-' :: _ :: _ => false
  | _ => true

/-- The commands that help may be asked for by name. -/
def isHelpTopic (arguments : List String) : Bool :=
  match arguments with
  | [] => true
  | [topic] => topic = "help" || (CommandName.ofText? topic).isSome
  | _ => false

/-- Reads arguments; `before` is what was read before the command, once it has been met. -/
def readLevels (before : Option Level) (level : Level) :
    List String → Except Ending (Option Level × Level)
  | [] => .ok (before, level)
  | argument :: rest =>
    if level.operandsOnly then
      match level.giveOperand argument with
      | .ok level => readLevels before level rest
      | .error ending => .error ending
    else
      match argument.toList with
      | ['-', '-'] => readLevels before { level with operandsOnly := true } rest
      | '-' :: '-' :: long =>
        let (name, attached) := splitLong long
        match OptionName.ofLong? name with
        | none => .error .usage
        | some option =>
          if !option.isKnown level.command then .error .usage
          else if option.hasValue then
            match attached, rest with
            | some value, rest =>
              match level.give option value with
              | .ok level => readLevels before level rest
              | .error ending => .error ending
            | none, value :: rest =>
              if isValue value then
                match level.give option value with
                | .ok level => readLevels before level rest
                | .error ending => .error ending
              else .error .usage
            | none, [] => .error .usage
          else if attached.isSome then .error .usage
          else
            match level.give option "" with
            | .ok level => readLevels before level rest
            | .error ending => .error ending
      | '-' :: c :: more =>
        match level.letters (c :: more) with
        | .ok level => readLevels before level rest
        | .error ending => .error ending
      | _ =>
        match level.command with
        | some _ =>
          match level.giveOperand argument with
          | .ok level => readLevels before level rest
          | .error ending => .error ending
        | none =>
          match CommandName.ofText? argument with
          | some command => readLevels (some level) { command := some command } rest
          | none => .error (if argument = "help" ∧ isHelpTopic rest then .help else .usage)

/-- A register and its text, as an option gives them. -/
def registerOf (value : String) : Char × String :=
  match value.toList with
  | name :: _ :: text => (name, String.ofList text)
  | _ => ('=', "")

/-- The command that a level names, if its operand is there. -/
def commandOf? (level : Level) : Option Command :=
  let json := !(level.values .json).isEmpty
  match level.command, level.operand with
  | some .list, _ => some (.list json)
  | some .check, _ => some .check
  | some .show, some name => some (.show name)
  | some .render, some name =>
    some (.render name ((level.values .filetype).headD "") ((level.values .register).map registerOf)
      json)
  | some .export, some file => some (.export ⟨file⟩)
  | _, _ => none

/-- The invocation that arguments name. -/
def read (arguments : List String) : Except Ending Invocation :=
  match readLevels none {} arguments with
  | .error ending => .error ending
  | .ok (before, level) =>
    match commandOf? level with
    | none => .error .usage
    | some command =>
      let given (option : OptionName) : List String :=
        match level.values option with
        | [] => (before.getD {}).values option
        | values => values
      .ok ⟨command, ((given .root).head?).map Path.mk, (given .dir).map Path.mk⟩

/-! ### Answers that need no prompts -/

def programName : String := "lmp"

def programVersion : String := "0.1.0"

/-- The line that says the version. -/
def versionLine : Option CommandName → String
  | none => s!"{programName} {programVersion}\n"
  | some command => s!"{programName}-{command.text} {programVersion}\n"

/-- What is said to a request for help. -/
def usageText : String :=
  "Usage: lmp [--root DIR] [--dir DIR]... [--verbose] COMMAND\n\n" ++
  "  list [--json]    every prompt with its model and its file\n" ++
  "  show NAME        one prompt as it is written in a file\n" ++
  "  check            the files that cannot be loaded\n" ++
  "  render NAME [--filetype TYPE] [--register NAME=VALUE]... [--json]\n" ++
  "                   one prompt with its placeholders replaced\n" ++
  "  export FILE      every prompt in one file\n"

end Promptbook.CommandLine
