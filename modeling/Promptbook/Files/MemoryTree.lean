import Promptbook.Distinct
import Promptbook.Files.View

/-! A file tree held in memory.

Files are stored under the components of their paths. A directory exists because a file
or another directory lies below it or because it was added, and nothing keeps a path
from being a file and a directory at once. -/
namespace Promptbook

structure MemoryTree where
  /-- The files in the order of their paths, each path once. -/
  files : List (List Path.Component × String) := []
  /-- The directories that were added, in order, each once. -/
  dirs : List (List Path.Component) := []
  deriving DecidableEq

namespace MemoryTree
open Promptbook.Path (Component)

/-- Files with one more, in its place; an earlier file of that path is replaced. -/
def putFile (path : List Component) (text : String) :
    List (List Component × String) → List (List Component × String)
  | [] => [(path, text)]
  | (other, old) :: rest =>
    if other = path then (path, text) :: rest
    else if Path.lessSteps path other then (path, text) :: (other, old) :: rest
    else (other, old) :: putFile path text rest

def addFile (tree : MemoryTree) (path : Path) (text : String) : MemoryTree :=
  { tree with files := putFile path.components text tree.files }

def addDir (tree : MemoryTree) (path : Path) : MemoryTree :=
  if tree.dirs.contains path.components then tree
  else { tree with dirs := tree.dirs ++ [path.components] }

/-- The text of a file, if there is one under this path. -/
def file? (tree : MemoryTree) (path : Path) : Option String :=
  tree.files.lookup path.components

def isFile (tree : MemoryTree) (path : Path) : Bool := (tree.file? path).isSome

/-- Whether something is known to lie at or below a directory. -/
def isDir (tree : MemoryTree) (path : Path) : Bool :=
  tree.dirs.any (path.components.isPrefixOf ·) ||
    tree.files.any fun (other, _) => other ≠ path.components && path.components.isPrefixOf other

/-- The names directly below a directory, those of files first. -/
def children (tree : MemoryTree) (path : Path) : List String :=
  distinct <| (tree.files.map Prod.fst ++ tree.dirs).filterMap fun other =>
    (Path.stepsBelow path.components other).bind fun rest => rest.head?.map Component.text

def list (tree : MemoryTree) (path : Path) : Except FileError (List String) :=
  if tree.isFile path then .error (.notDirectory path)
  else if tree.isDir path then .ok (tree.children path)
  else .error (.notFound path)

def read (tree : MemoryTree) (path : Path) : Except FileError String :=
  match tree.file? path with
  | some text => .ok text
  | none => .error (.notFound path)

def fileSystem : FileSystem MemoryTree where
  view tree := ⟨tree.read, tree.list, tree.isDir, tree.isFile⟩
  write path text tree := (.ok (), tree.addFile path text)

/-! ### Small facts -/

theorem lookup_putFile (path other : List Component) (text : String)
    (files : List (List Component × String)) :
    (putFile path text files).lookup other =
      if other = path then some text else files.lookup other := by
  induction files with
  | nil =>
    by_cases h : other = path <;> simp [putFile, List.lookup_cons, h, beq_eq_false_iff_ne.mpr]
  | cons entry rest ih =>
    obtain ⟨p, old⟩ := entry
    simp only [putFile]
    by_cases h : other = path
    · subst h
      split
      · simp
      · next hne =>
        split
        · simp
        · simp [List.lookup_cons, beq_eq_false_iff_ne.mpr (Ne.symm hne), ih]
    · have ho : (other == path) = false := beq_eq_false_iff_ne.mpr h
      split
      · next heq =>
        subst heq
        simp [List.lookup_cons, ho]
      · split
        · simp [List.lookup_cons, ho]
        · simp [List.lookup_cons, ih, h]

theorem file?_addFile (tree : MemoryTree) (path other : Path) (text : String) :
    (tree.addFile path text).file? other =
      if other.components = path.components then some text else tree.file? other :=
  lookup_putFile _ _ _ _

end MemoryTree
end Promptbook
