/-! Paths of files and directories.

A path is kept as it was written, and two paths name the same place when their
components agree: separators may be doubled, a separator may stand at the end, and a
`.` counts only at the very start. Nothing here looks at a file system, so `..` is a
component like any other. -/
namespace Promptbook

/-- A path as it was written. -/
structure Path where
  text : String
  deriving DecidableEq, Inhabited

namespace Path

/-- One step of a path. -/
inductive Component where
  | root
  | here
  | parent
  | name (text : String)
  deriving DecidableEq

/-! ### Reading a path -/

/-- The texts between separators, empty ones included. -/
def segments : List Char → List (List Char)
  | [] => [[]]
  | '/' :: rest => [] :: segments rest
  | c :: rest =>
    match segments rest with
    | [] => [[c]]
    | first :: more => (c :: first) :: more

/-- The step that a segment stands for, if it stands for one. -/
def Component.ofSegment? (segment : List Char) : Option Component :=
  if segment = [] ∨ segment = ['.'] then none
  else if segment = ['.', '.'] then some .parent
  else some (.name (String.ofList segment))

/-- Whether a path starts at the root. -/
def isAbsolute (path : Path) : Bool := path.text.toList.head? = some '/'

/-- The steps of a path. -/
def components (path : Path) : List Component :=
  let found := (segments path.text.toList).filterMap Component.ofSegment?
  if path.isAbsolute then .root :: found
  else if (segments path.text.toList).head? = some ['.'] then .here :: found
  else found

/-- A step as it is shown. -/
def Component.text : Component → String
  | .root => "/"
  | .here => "."
  | .parent => ".."
  | .name text => text

/-! ### Order -/

/-- Roots come before `.`, which comes before `..`, which comes before names. -/
def Component.rank : Component → Nat
  | .root => 0
  | .here => 1
  | .parent => 2
  | .name _ => 3

/-- Names are ordered code point by code point. -/
def Component.less (a b : Component) : Bool :=
  a.rank < b.rank || (a.rank == b.rank && a.text < b.text)

/-- Paths are ordered step by step. -/
def lessSteps : List Component → List Component → Bool
  | _, [] => false
  | [], _ :: _ => true
  | a :: as, b :: bs => a.less b || (a = b && lessSteps as bs)

/-! ### Building paths -/

/-- A path followed from another: an absolute one stands for itself. -/
def join (base path : Path) : Path :=
  if path.isAbsolute then path
  else if base.text = "" ∨ base.text.toList.getLast? = some '/' then ⟨base.text ++ path.text⟩
  else ⟨base.text ++ "/" ++ path.text⟩

/-- A text written backwards without the separators and the `.` that end it. The separator
of the root stays. -/
def trimBack : List Char → List Char
  | [] => []
  | ['/'] => ['/']
  | '/' :: rest => trimBack rest
  | '.' :: '/' :: rest => trimBack ('/' :: rest)
  | text => text

/-- The path without its last step. -/
def parent (path : Path) : Path :=
  let front := (trimBack path.text.toList.reverse).dropWhile (· != '/')
  ⟨String.ofList (trimBack front).reverse⟩

/-- The steps that remain below a directory. -/
def stepsBelow (directory path : List Component) : Option (List Component) :=
  if directory.isPrefixOf path then some (path.drop directory.length) else none

/-! ### Small facts -/

theorem join_of_absolute {base path : Path} (h : path.isAbsolute = true) :
    base.join path = path := by
  simp [join, h]

theorem stepsBelow_append (directory rest : List Component) :
    stepsBelow directory (directory ++ rest) = some rest := by
  simp [stepsBelow]

end Path
end Promptbook
