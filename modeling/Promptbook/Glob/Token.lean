/-! Globs.

A glob describes names: `?` is any octet, `*` any octets, brackets hold a class, braces
hold alternatives between commas, and `**` between separators is any directories. A
backslash makes the next character stand for itself. A glob is read character by
character, and the first mistake counts. -/
namespace Promptbook.Glob

/-! ### Tokens -/

inductive Token where
  | literal (c : Char)
  | any
  | anyRow
  /-- `**` at the start: nothing, or directories with a separator behind them. -/
  | leadingDirs
  /-- `**` at the end: a separator and anything behind it. -/
  | trailingDirs
  /-- `**` between separators: one separator, or directories between two. -/
  | innerDirs
  | charClass (negated : Bool) (ranges : List (Char × Char))
  | alternatives (branches : List (List Token))

/-- What is wrong with a glob. -/
inductive Mistake where
  | unclosedClass
  | invalidRange (low high : Char)
  | unopenedAlternatives
  | unclosedAlternatives
  | danglingEscape
  deriving DecidableEq

def Mistake.message : Mistake → String
  | .unclosedClass => "unclosed character class; missing ']'"
  | .invalidRange low high => s!"invalid range; '{low}' > '{high}'"
  | .unopenedAlternatives =>
    "unopened alternate group; missing '\x7b' (maybe escape '\x7d' with '[\x7d]'?)"
  | .unclosedAlternatives =>
    "unclosed alternate group; missing '\x7d' (maybe escape '\x7b' with '[\x7b]'?)"
  | .danglingEscape => "dangling '\\'"

/-! ### Reading -/

/-- A class that is being read. -/
structure ClassDraft where
  negated : Bool
  /-- The ranges read, last first. -/
  ranges : List (Char × Char) := []
  /-- Whether nothing has been read behind the bracket. -/
  first : Bool := true
  /-- Whether the next character ends the last range. -/
  inRange : Bool := false

/-- A glob that is being read. -/
structure Draft where
  /-- The tokens of the open branch, last first. -/
  tokens : List Token := []
  /-- The open groups, innermost first: finished branches, last first, and the tokens
  before the group, last first. -/
  groups : List (List (List Token) × List Token) := []
  classDraft : Option ClassDraft := none
  /-- The character before the next one. -/
  previous : Option Char := none
  /-- How many of the next characters have been used already. -/
  used : Nat := 0

namespace Draft

def push (draft : Draft) (token : Token) : Draft := { draft with tokens := token :: draft.tokens }

def inGroup (draft : Draft) : Bool := !draft.groups.isEmpty

/-- The class draft with its last range ending at this character. -/
def endRange (classDraft : ClassDraft) (c : Char) : Except Mistake ClassDraft :=
  match classDraft.ranges with
  | [] => .ok { classDraft with ranges := [(c, c)], inRange := false }
  | (low, _) :: rest =>
    if c < low then .error (.invalidRange low c)
    else .ok { classDraft with ranges := (low, c) :: rest, inRange := false }

/-- One more character of a class. -/
def stepClass (draft : Draft) (classDraft : ClassDraft) (c : Char) : Except Mistake Draft :=
  let keep (classDraft : ClassDraft) : Draft :=
    { draft with classDraft := some { classDraft with first := false } }
  if c = ']' ∧ !classDraft.first then
    let ranges := if classDraft.inRange then ('-', '-') :: classDraft.ranges else classDraft.ranges
    .ok (push { draft with classDraft := none } (.charClass classDraft.negated ranges.reverse))
  else if c = '-' ∧ !classDraft.first ∧ !classDraft.inRange then
    .ok (keep { classDraft with inRange := true })
  else if classDraft.inRange ∧ c ≠ ']' then (endRange classDraft c).map keep
  else .ok (keep { classDraft with ranges := (c, c) :: classDraft.ranges })

/-- Two stars, of which the first has just been read; `rest` is what follows the second. -/
def stepStars (draft : Draft) (rest : List Char) : Draft :=
  let rows : Draft := { (draft.push .anyRow).push .anyRow with used := 1 }
  let separated := draft.previous = some '/'
  let branching := draft.inGroup ∧ (draft.previous = some ',' ∨ draft.previous = some '\x7b')
  match draft.tokens with
  | [] =>
    match rest with
    | [] => { (draft.push .leadingDirs) with used := 1 }
    | '/' :: _ => { (draft.push .leadingDirs) with used := 2 }
    | _ => rows
  | last :: before =>
    let replace (token : Token) (used : Nat) : Draft :=
      match last with
      | .leadingDirs => { draft with used := used }
      | .trailingDirs => { draft with used := used }
      | _ => { draft with tokens := token :: before, used := used }
    if ¬separated ∧ ¬branching then rows
    else
      match rest with
      | [] => replace .trailingDirs 1
      | '/' :: _ => replace .innerDirs 2
      | c :: _ =>
        if draft.inGroup ∧ (c = ',' ∨ c = '\x7d') then replace .trailingDirs 1 else rows

/-- One more character outside a class; `rest` is what follows it. -/
def stepOutside (draft : Draft) (c : Char) (rest : List Char) : Except Mistake Draft :=
  match c with
  | '?' => .ok (draft.push .any)
  | '*' =>
    match rest with
    | '*' :: more => .ok (draft.stepStars more)
    | _ => .ok (draft.push .anyRow)
  | '[' =>
    let negated := rest.head? = some '!' || rest.head? = some '^'
    .ok { draft with classDraft := some { negated := negated }, used := if negated then 1 else 0 }
  | '\x7b' => .ok { draft with tokens := [], groups := ([], draft.tokens) :: draft.groups }
  | '\x7d' =>
    match draft.groups with
    | [] => .error .unopenedAlternatives
    | (branches, before) :: groups =>
      let token := Token.alternatives (draft.tokens.reverse :: branches).reverse
      .ok { draft with tokens := token :: before, groups := groups }
  | ',' =>
    match draft.groups with
    | [] => .ok (draft.push (.literal ','))
    | (branches, before) :: groups =>
      .ok { draft with
        tokens := []
        groups := (draft.tokens.reverse :: branches, before) :: groups }
  | '\\' =>
    match rest with
    | [] => .error .danglingEscape
    | next :: _ => .ok { (draft.push (.literal next)) with used := 1 }
  | _ => .ok (draft.push (.literal c))

def step (draft : Draft) (c : Char) (rest : List Char) : Except Mistake Draft :=
  let next : Except Mistake Draft :=
    match draft.used, draft.classDraft with
    | used + 1, _ => .ok { draft with used := used }
    | 0, some classDraft => draft.stepClass classDraft c
    | 0, none => draft.stepOutside c rest
  next.map fun draft => { draft with previous := some c }

def run (draft : Draft) : List Char → Except Mistake (List Token)
  | [] =>
    if draft.classDraft.isSome then .error .unclosedClass
    else if draft.inGroup then .error .unclosedAlternatives
    else .ok draft.tokens.reverse
  | c :: rest =>
    match draft.step c rest with
    | .ok next => run next rest
    | .error mistake => .error mistake

end Draft

/-- The tokens of a glob. -/
def read (text : List Char) : Except Mistake (List Token) := Draft.run {} text

end Promptbook.Glob
