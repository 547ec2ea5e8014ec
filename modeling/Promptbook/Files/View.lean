import Promptbook.Files.Path

/-! What prompts need of a file system.

Loading only looks: it asks whether a path is a directory or a file, lists directories
and reads files. A file system gives such a view of its state and can write a file,
which may change the state even when it fails. -/
namespace Promptbook

/-- Why a file system refused. -/
inductive FileError where
  | notFound (path : Path)
  | notDirectory (path : Path)
  | unreadable (path : Path) (reason : String)
  | unwritable (path : Path) (reason : String)
  | denied (path : Path)
  deriving DecidableEq

def FileError.message : FileError → String
  | .notFound path => "path not found: " ++ path.text
  | .notDirectory path => "invalid path: " ++ path.text
  | .unreadable path reason => s!"file read error: {path.text}: {reason}"
  | .unwritable path reason => s!"file write error: {path.text}: {reason}"
  | .denied path => "permission denied: " ++ path.text

/-- Files and directories as they can be seen. -/
structure FileView where
  read : Path → Except FileError String
  /-- The names of a directory's entries. -/
  list : Path → Except FileError (List String)
  isDir : Path → Bool
  isFile : Path → Bool

/-- A file system with states of type `τ`. -/
structure FileSystem (τ : Type) where
  view : τ → FileView
  /-- Stores a text under a path. -/
  write : Path → String → τ → Except FileError Unit × τ

/-! ### Forbidden paths -/

/-- Paths that may not be listed, read or written, as they are written. -/
structure Denials where
  list : List Path := []
  read : List Path := []
  write : List Path := []

/-- A file system that refuses the paths that its state forbids. -/
def FileSystem.denying (fileSystem : FileSystem τ) : FileSystem (Denials × τ) where
  view := fun (denials, tree) =>
    let view := fileSystem.view tree
    { view with
      read := fun path =>
        if denials.read.contains path then .error (.denied path) else view.read path
      list := fun path =>
        if denials.list.contains path then .error (.denied path) else view.list path }
  write := fun path text (denials, tree) =>
    if denials.write.contains path then (.error (.denied path), (denials, tree))
    else
      let (result, tree) := fileSystem.write path text tree
      (result, (denials, tree))

end Promptbook
