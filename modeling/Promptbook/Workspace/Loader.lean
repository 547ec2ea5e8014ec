import Promptbook.Glob.Match
import Promptbook.Template.Writer
import Promptbook.Workspace.Config
import Promptbook.Workspace.Error

/-! Loading and exporting prompts.

Directories are visited in the order of the configuration and the files of a directory
in the order of their names. A file that cannot be read is noted and left out; what the
others contribute does not depend on it. Every prompt remembers the file it came from,
and an export writes only such prompts. -/
namespace Promptbook.Loader

/-- A directory or file that was left out, and why. -/
structure Failure where
  path : Path
  trouble : Trouble
  deriving DecidableEq

/-- What loading found. -/
structure Report where
  prompts : Collection := []
  /-- What was left out, in the order of the visit. -/
  failures : List Failure := []
  deriving DecidableEq

/-- Whether nothing was left out. -/
def Report.isClean (report : Report) : Bool := report.failures.isEmpty

/-! ### Files -/

/-- The prompts of one file, each with the file as its source. -/
def loadFile (files : FileView) (rules : Template.Rules) (path : Path) :
    Except Trouble Collection :=
  match files.read path with
  | .error error => .error (.file error)
  | .ok text =>
    match Template.parse rules text with
    | .error error => .error (.parse path error)
    | .ok prompts => .ok (prompts.map fun prompt => { prompt with sourceFile := some path })

/-- The report after one more file. -/
def visitFile (files : FileView) (config : Config) (report : Report) (path : Path) : Report :=
  match loadFile files config.rules path with
  | .ok prompts => { report with prompts := Collection.merged report.prompts prompts config.merge }
  | .error trouble => { report with failures := report.failures ++ [⟨path, trouble⟩] }

/-! ### Directories -/

/-- Names in ascending order. -/
def sortNames (names : List String) : List String := names.mergeSort (· ≤ ·)

/-- The files of a directory whose names are wanted, in the order of their names. -/
def wantedFiles (files : FileView) (wanted : String → Bool) (dir : Path) (names : List String) :
    List Path :=
  (((sortNames names).filter wanted).map fun name => dir.join ⟨name⟩).filter files.isFile

/-- The report after one more directory; a missing one is passed over. -/
def visitDir (files : FileView) (config : Config) (wanted : String → Bool) (report : Report)
    (dir : Path) : Report :=
  if files.isDir dir then
    match files.list dir with
    | .error error => { report with failures := report.failures ++ [⟨dir, .file error⟩] }
    | .ok names => (wantedFiles files wanted dir names).foldl (visitFile files config) report
  else report

/-! ### Collections -/

/-- The names that a glob matches; a faulty glob is refused. -/
def wanted? (pattern : String) : Except Trouble (String → Bool) :=
  match Glob.read pattern.toList with
  | .ok tokens => .ok (Glob.matchesTokens tokens)
  | .error mistake =>
    .error (.invalidPattern pattern s!"error parsing glob '{pattern}': {mistake.message}")

/-- The prompts of every wanted file in the directories of a configuration. -/
def load (files : FileView) (config : Config) : Except Trouble Report :=
  match wanted? config.pattern with
  | .error trouble => .error trouble
  | .ok wanted => .ok (config.templateDirs.foldl (visitDir files config wanted) {})

/-- Writes the prompts that have a file into one file, and counts them. -/
def exportTo (fileSystem : FileSystem τ) (path : Path) (prompts : List Prompt) (tree : τ) :
    Except Trouble Nat × τ :=
  let persistable := prompts.filter Prompt.isPersistable
  match fileSystem.write path (Template.writeAll persistable) tree with
  | (.ok (), tree) => (.ok persistable.length, tree)
  | (.error error, tree) => (.error (.file error), tree)

end Promptbook.Loader
