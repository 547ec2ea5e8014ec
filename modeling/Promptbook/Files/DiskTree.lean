import Promptbook.Files.View
import Promptbook.Text.Utf8

/-! A file tree on a disk.

Directories have to exist before something can be put into them, and every entry is a
file or a directory. A path is followed step by step from the root or from the working
directory: each step needs a directory to stand in, `..` leads up, and a separator at
the end asks for a directory. Files hold octets, which need not be a text. -/
namespace Promptbook

/-- What a name in a directory stands for. -/
inductive DiskEntry where
  | directory
  | file (octets : List UInt8)
  deriving DecidableEq

/-- Where in the tree something lies: the names that lead to it from the root. -/
abbrev Location := List String

structure DiskTree where
  /-- Everything but the root, each location once. -/
  entries : List (Location × DiskEntry) := []
  /-- Where relative paths start. -/
  workingDirectory : Location := []

namespace DiskTree

/-! ### Refusals -/

/-- Why the system refused a path. -/
inductive Refusal where
  | notFound
  | exists
  | notDirectory
  | isDirectory
  | nameTooLong
  /-- The path holds a character that ends a path for the system. -/
  | nul
  deriving DecidableEq

def Refusal.message : Refusal → String
  | .notFound => "No such file or directory (os error 2)"
  | .exists => "File exists (os error 17)"
  | .notDirectory => "Not a directory (os error 20)"
  | .isDirectory => "Is a directory (os error 21)"
  | .nameTooLong => "File name too long (os error 36)"
  | .nul => "file name contained an unexpected NUL byte"

/-- The longest name, in octets. -/
def nameLimit : Nat := 255

/-- The longest path, in octets. -/
def pathLimit : Nat := 4095

/-! ### Following a path -/

/-- One step of the system along a path. -/
inductive Step where
  | here
  | up
  | into (name : String)
  deriving DecidableEq

def Step.ofSegment? (segment : List Char) : Option Step :=
  if segment = [] then none
  else if segment = ['.'] then some .here
  else if segment = ['.', '.'] then some .up
  else some (.into (String.ofList segment))

/-- A path as the system reads it. -/
structure Route where
  absolute : Bool
  steps : List Step
  /-- Whether the path ends with a separator. -/
  trailing : Bool

/-- The steps of a path, unless the system refuses its text. -/
def route (path : Path) : Except Refusal Route :=
  let text := path.text.toList
  if text.contains '\x00' then .error .nul
  else if text = [] then .error .notFound
  else if path.text.utf8ByteSize > pathLimit then .error .nameTooLong
  else
    .ok ⟨path.isAbsolute, (Path.segments text).filterMap Step.ofSegment?,
      text.getLast? = some '/'⟩

/-- What lies at a location. -/
def get? (tree : DiskTree) (location : Location) : Option DiskEntry :=
  if location = [] then some .directory else tree.entries.lookup location

def isDirectoryAt (tree : DiskTree) (location : Location) : Bool :=
  tree.get? location = some .directory

/-- The location behind these steps, each of which must lead to something. -/
def walk (tree : DiskTree) (location : Location) : List Step → Except Refusal Location
  | [] => .ok location
  | step :: rest =>
    if !tree.isDirectoryAt location then .error .notDirectory
    else
      match step with
      | .here => tree.walk location rest
      | .up => tree.walk location.dropLast rest
      | .into name =>
        if name.utf8ByteSize > nameLimit then .error .nameTooLong
        else if (tree.get? (location ++ [name])).isNone then .error .notFound
        else tree.walk (location ++ [name]) rest

def start (tree : DiskTree) (route : Route) : Location :=
  if route.absolute then [] else tree.workingDirectory

/-- The location that a path leads to. -/
def locate (tree : DiskTree) (path : Path) : Except Refusal Location := do
  let route ← route path
  let location ← tree.walk (tree.start route) route.steps
  if route.trailing && !tree.isDirectoryAt location then .error .notDirectory
  else .ok location

/-- What a path leads to. -/
def find? (tree : DiskTree) (path : Path) : Option DiskEntry :=
  match tree.locate path with
  | .ok location => tree.get? location
  | .error _ => none

def isDir (tree : DiskTree) (path : Path) : Bool := tree.find? path = some .directory

def isFile (tree : DiskTree) (path : Path) : Bool :=
  match tree.find? path with
  | some (.file _) => true
  | _ => false

/-! ### Changing the tree -/

/-- Entries with something at a location, in place of what was there. -/
def putEntry (location : Location) (entry : DiskEntry) :
    List (Location × DiskEntry) → List (Location × DiskEntry)
  | [] => [(location, entry)]
  | (other, old) :: rest =>
    if other = location then (location, entry) :: rest
    else (other, old) :: putEntry location entry rest

/-- The tree with something at a location. -/
def put (tree : DiskTree) (location : Location) (entry : DiskEntry) : DiskTree :=
  { tree with entries := putEntry location entry tree.entries }

/-- The directory that a route's last step starts from, and that step. -/
def lastStep (tree : DiskTree) (route : Route) : Except Refusal (Location × Option Step) := do
  let location ← tree.walk (tree.start route) route.steps.dropLast
  match route.steps.getLast? with
  | none => .ok (location, none)
  | some step =>
    if tree.isDirectoryAt location then .ok (location, some step) else .error .notDirectory

/-- Makes one directory; what is above it must exist and nothing may be there. -/
def makeDir (tree : DiskTree) (route : Route) : Except Refusal DiskTree := do
  match ← tree.lastStep route with
  | (location, some (.into name)) =>
    if name.utf8ByteSize > nameLimit then .error .nameTooLong
    else if (tree.get? (location ++ [name])).isSome then .error .exists
    else .ok (tree.put (location ++ [name]) .directory)
  | _ => .error .exists

/-- The step that a component stands for. -/
def Step.ofComponent? : Path.Component → Option Step
  | .root => none
  | .here => some .here
  | .parent => some .up
  | .name text => some (.into text)

/-- The route along these components. -/
def routeOf (components : List Path.Component) : Route :=
  ⟨components.head? = some .root, components.filterMap Step.ofComponent?, false⟩

/-- Whether a directory lies at the end of a route. -/
def endsInDir (tree : DiskTree) (route : Route) : Bool :=
  match tree.walk (tree.start route) route.steps with
  | .ok location => tree.isDirectoryAt location
  | .error _ => false

/-- Makes the directory that these components, last first, lead to, and what is missing
above it. The directories made before a refusal stay. -/
def makeDirs (tree : DiskTree) : List Path.Component → Except Refusal Unit × DiskTree
  | [] => (.ok (), tree)
  | last :: above =>
    let route := routeOf (last :: above).reverse
    match tree.makeDir route with
    | .ok tree => (.ok (), tree)
    | .error .notFound =>
      match tree.makeDirs above with
      | (.ok (), tree) =>
        match tree.makeDir route with
        | .ok tree => (.ok (), tree)
        | .error refusal => if tree.endsInDir route then (.ok (), tree) else (.error refusal, tree)
      | (.error refusal, tree) => (.error refusal, tree)
    | .error refusal => if tree.endsInDir route then (.ok (), tree) else (.error refusal, tree)

/-- Stores a file; the directory that it goes into must exist. -/
def store (tree : DiskTree) (path : Path) (octets : List UInt8) : Except Refusal DiskTree := do
  let route ← route path
  match ← tree.lastStep route with
  | (location, some (.into name)) =>
    if route.trailing then .error .isDirectory
    else if name.utf8ByteSize > nameLimit then .error .nameTooLong
    else if tree.isDirectoryAt (location ++ [name]) then .error .isDirectory
    else .ok (tree.put (location ++ [name]) (.file octets))
  | _ => .error .isDirectory

/-- The components above a path, last first; nothing if there is nothing above it. -/
def above (path : Path) : List Path.Component :=
  match path.components.reverse with
  | [] => []
  | .root :: _ => []
  | _ :: rest => rest

/-- Makes what is missing above a path, unless the system refuses the text of the path
above it. -/
def makeAbove (tree : DiskTree) (path : Path) : Except Refusal Unit × DiskTree :=
  if above path = [] then (.ok (), tree)
  else
    match route path.parent with
    | .error refusal => (.error refusal, tree)
    | .ok route =>
      match tree.walk (tree.start route) route.steps with
      | .ok _ => (.ok (), tree)
      | .error _ => tree.makeDirs (above path)

/-- Stores a file and makes the directories above it that are missing. -/
def storeDeep (tree : DiskTree) (path : Path) (octets : List UInt8) :
    Except Refusal Unit × DiskTree :=
  match tree.makeAbove path with
  | (.error refusal, tree) => (.error refusal, tree)
  | (.ok (), tree) =>
    match tree.store path octets with
    | .ok tree => (.ok (), tree)
    | .error refusal => (.error refusal, tree)

/-- Makes a directory and the directories above it that are missing. -/
def addDir (tree : DiskTree) (path : Path) : DiskTree :=
  match route path with
  | .error _ => tree
  | .ok _ => (tree.makeDirs path.components.reverse).2

/-! ### The file system -/

/-- The octets of a file. -/
def octets (tree : DiskTree) (path : Path) : Except Refusal (List UInt8) := do
  match tree.get? (← tree.locate path) with
  | some (.file octets) => .ok octets
  | some .directory => .error .isDirectory
  | none => .error .notFound

/-- What is said of a file whose octets are no text. -/
def notText : String := "stream did not contain valid UTF-8"

def read (tree : DiskTree) (path : Path) : Except FileError String :=
  match tree.octets path with
  | .ok octets =>
    match Text.decodeUtf8 octets with
    | .ok text => .ok text
    | .error _ => .error (.unreadable path notText)
  | .error .notFound => .error (.notFound path)
  | .error refusal => .error (.unreadable path refusal.message)

/-- The names directly below a location, in ascending order. -/
def namesBelow (tree : DiskTree) (location : Location) : List String :=
  let names := tree.entries.filterMap fun (other, _) =>
    if other.dropLast = location then other.getLast? else none
  names.mergeSort (· ≤ ·)

def list (tree : DiskTree) (path : Path) : Except FileError (List String) :=
  match tree.locate path with
  | .error _ => .error (.notFound path)
  | .ok location =>
    if tree.isDirectoryAt location then .ok (tree.namesBelow location)
    else .error (.notDirectory path)

def write (tree : DiskTree) (path : Path) (text : String) : Except FileError Unit × DiskTree :=
  match tree.storeDeep path (Text.encodeUtf8 text) with
  | (.ok (), tree) => (.ok (), tree)
  | (.error refusal, tree) => (.error (.unwritable path refusal.message), tree)

def fileSystem : FileSystem DiskTree where
  view tree := ⟨tree.read, tree.list, tree.isDir, tree.isFile⟩
  write path text tree := tree.write path text

/-! ### Small facts -/

theorem lookup_putEntry (location other : Location) (entry : DiskEntry)
    (entries : List (Location × DiskEntry)) :
    (putEntry location entry entries).lookup other =
      if other = location then some entry else entries.lookup other := by
  induction entries with
  | nil =>
    by_cases h : other = location <;> simp [putEntry, List.lookup_cons, h, beq_eq_false_iff_ne.mpr]
  | cons e rest ih =>
    obtain ⟨name, old⟩ := e
    by_cases hn : name = location
    · subst hn
      by_cases h : other = name <;>
        simp [putEntry, List.lookup_cons, h, beq_eq_false_iff_ne.mpr]
    · by_cases h : other = name
      · subst h
        simp [putEntry, hn]
      · simp [putEntry, hn, List.lookup_cons, beq_eq_false_iff_ne.mpr h, ih]

theorem get?_put (tree : DiskTree) {location : Location} (hroot : location ≠ [])
    (entry : DiskEntry) (other : Location) :
    (tree.put location entry).get? other =
      if other = location then some entry else tree.get? other := by
  by_cases h : other = []
  · subst h
    simp [get?, Ne.symm hroot]
  · simp [get?, h, put, lookup_putEntry]

end DiskTree
end Promptbook
