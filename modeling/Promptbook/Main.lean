import Promptbook.CommandLine.Run
import Promptbook.Files.DiskTree

/-! The program.

What a command can see of the disk is copied into a tree before it runs, and what it put
into the tree is copied back. A command that wants a line from the terminal is run again
with one line more, and only the questions that are new are shown. -/
namespace Promptbook.Program
open CommandLine (Answer Invocation)
open Substitution (Console)

/-! ### From the disk -/

def onDisk (location : Location) : String := "/" ++ "/".intercalate location

/-- Copies one file or directory, without what the directory holds. -/
def copyEntry (tree : DiskTree) (location : Location) : IO DiskTree := do
  if ← (System.mkFilePath [onDisk location]).isDir then
    return tree.put location .directory
  match ← (IO.FS.readBinFile (onDisk location)).toBaseIO with
  | .ok octets => return tree.put location (.file octets.toList)
  | .error _ => return tree

/-- Copies what lies along a path, and what the directory at its end holds. -/
def copyPath (tree : DiskTree) (path : Path) : IO DiskTree := do
  let .ok route := DiskTree.route path | return tree
  let mut tree := tree
  let mut location := tree.start route
  for step in route.steps do
    match step with
    | .here => pure ()
    | .up => location := location.dropLast
    | .into name =>
      location := location ++ [name]
      tree ← copyEntry tree location
  if tree.isDirectoryAt location then
    match ← (System.mkFilePath [onDisk location]).readDir.toBaseIO with
    | .ok entries =>
      for entry in entries do
        tree ← copyEntry tree (location ++ [entry.fileName])
    | .error _ => pure ()
  return tree

/-- The tree of everything that an invocation looks at. -/
def copyFor (workingDirectory : Path) (invocation : Invocation) : IO DiskTree := do
  let names := DiskTree.route workingDirectory |>.toOption.map (·.steps) |>.getD []
  let location := names.filterMap fun
    | .into name => some name
    | _ => none
  let mut tree ← copyPath {} workingDirectory
  tree := { tree with workingDirectory := location }
  tree ← copyPath tree (Config.ofRoot (invocation.root.getD workingDirectory)).configFile
  let files := DiskTree.fileSystem.view tree
  if let .ok config := CommandLine.configure files workingDirectory invocation then
    for dir in config.templateDirs do
      tree ← copyPath tree dir
  if let .export file := invocation.command then
    tree ← copyPath tree file
  return tree

/-! ### To the disk -/

/-- Makes the directories and files that the first tree does not have like this. -/
def copyBack (before after : DiskTree) : IO Unit := do
  for (location, entry) in after.entries do
    if before.get? location ≠ some entry then
      match entry with
      | .directory => IO.FS.createDir (onDisk location)
      | .file octets => IO.FS.writeBinFile (onDisk location) ⟨octets.toArray⟩

/-! ### The terminal -/

/-- Reads octets up to and with a line feed, or to the end. -/
partial def readLine (input : IO.FS.Stream) (line : List UInt8) : IO (List UInt8) := do
  let octets ← input.read 1
  match octets.toList with
  | [] => return line.reverse
  | octet :: _ =>
    if octet = 0x0A then return (octet :: line).reverse
    readLine input (octet :: line)

/-- Runs a command with ever more lines until it wants no more or there are no more. -/
partial def converse (input : IO.FS.Stream) (run : Console → Answer × Console × DiskTree)
    (given : List UInt8) (shown : Nat) : IO (Answer × DiskTree) := do
  let (answer, console, tree) := run { unread := given }
  IO.eprint (console.written.drop shown)
  (← IO.getStderr).flush
  if !console.exhausted then return (answer, tree)
  match ← readLine input [] with
  | [] => return (answer, tree)
  | line => converse input run (given ++ line) console.written.length

end Promptbook.Program

open Promptbook in
def main (arguments : List String) : IO UInt32 := do
  let workingDirectory : Path := ⟨(← IO.currentDir).toString⟩
  let before ←
    match CommandLine.read arguments with
    | .ok invocation => Program.copyFor workingDirectory invocation
    | .error _ => pure {}
  let run (console : Substitution.Console) :=
    CommandLine.execute DiskTree.fileSystem workingDirectory arguments console before
  let (answer, after) ← Program.converse (← IO.getStdin) run [] 0
  Program.copyBack before after
  IO.print answer.output
  if let some complaint := answer.complaint then IO.eprintln s!"Error: {complaint}"
  if answer = .misused then IO.eprint CommandLine.usageText
  return answer.code.toUInt32
