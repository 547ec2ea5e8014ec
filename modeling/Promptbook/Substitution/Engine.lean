import Promptbook.Text.Blank
import Promptbook.Substitution.Source

/-! Substitution.

A body is rewritten in steps, each over the text that the one before it left: the origin
for `$select` is chosen, labelled placeholders are answered one by one, one answer serves
every bare `$input`, the clipboard and the yanked text become registers, each register
is read once, and the kind of file comes last. What a step inserts is shielded from
the later ones: its dollar signs are hidden, and a mark at either end keeps it from
touching what stands next to it. -/
namespace Promptbook.Substitution
open Text

/-- Why a substitution gave no text. -/
inductive Stop where
  /-- The user called it off. -/
  | cancelled
  | emptyRegister (name : Char)
  | source (error : SourceError)
  deriving DecidableEq

namespace Stop

def message : Stop → String
  | .cancelled => "cancelled"
  | .emptyRegister name => registerLabel name ++ " is empty"
  | .source error => error.message

def isCancelled (stop : Stop) : Bool := stop = .cancelled

end Stop

/-! ### Runs -/

/-- A run that asks a source and may stop; the state of the source outlives a stop. -/
def Run (σ α : Type) : Type := σ → Except Stop α × σ

namespace Run

def pure (value : α) : Run σ α := fun s => (.ok value, s)

def stop (reason : Stop) : Run σ α := fun s => (.error reason, s)

/-- One run after another, of which the second sees the value of the first. -/
def bind (run : Run σ α) (next : α → Run σ β) : Run σ β := fun s =>
  match run s with
  | (.ok value, s) => next value s
  | (.error reason, s) => (.error reason, s)

instance : Monad (Run σ) where
  pure := pure
  bind := bind

/-- A call of the source, whose failure stops the run. -/
def ofCall (call : Call σ α) : Run σ α := fun s =>
  match call s with
  | (.ok value, s) => (.ok value, s)
  | (.error error, s) => (.error (.source error), s)

end Run

/-! ### Shielding -/

/-- Reserved: in a finished text it is written as a dollar sign. -/
def dollarMark : Char := '\ue000'

/-- Reserved: in a finished text it is left out. -/
def edgeMark : Char := '\ue001'

/-- A value as it is inserted: between two marks, and with its dollar signs hidden. -/
def shielded (value : String) : List Char :=
  edgeMark :: value.toList.map (fun c => if c = '$' then dollarMark else c) ++ [edgeMark]

/-- A text without the two reserved characters. -/
def withoutMarks (text : List Char) : List Char :=
  (text.filter (· ≠ edgeMark)).map fun c => if c = dollarMark then '$' else c

/-! ### Asking -/

def selectPrompt : String := "Source: "

def inputPrompt : String := "Input: "

/-- The question for a labelled placeholder. -/
def labelPrompt (label : List Char) : String := String.ofList (label ++ [':', ' '])

/-- A question whose answer must not be empty. -/
def ask (source : Source σ) (prompt : String) : Run σ String := do
  match ← Run.ofCall (source.input prompt) with
  | some answer => if answer = "" then Run.stop .cancelled else pure answer
  | none => Run.stop .cancelled

/-- The contents of a register, which may not be blank. -/
def readRegister (source : Source σ) (name : Char) : Run σ String := do
  let value ← Run.ofCall (source.register name)
  if allBlank value.toList then Run.stop (.emptyRegister name) else pure value

/-! ### Steps -/

/-- The origin for `$select`: none is needed without one, and a given one is not asked for. -/
def choose (source : Source σ) (reuse : Option Origin) (text : List Char) :
    Run σ (Option Origin) :=
  if occurs select? text then
    match reuse with
    | some origin => pure (some origin)
    | none => do
      match ← Run.ofCall (source.choose selectPrompt Origin.all) with
      | some origin => pure (some origin)
      | none => Run.stop .cancelled
  else pure none

/-- The text with the chosen origin in the place of every `$select`. -/
def withChoice (choice : Option Origin) (text : List Char) : List Char :=
  match choice with
  | some origin => chosenText origin text
  | none => text

/-- The text with every label answered, the one further to the left first. -/
def fillLabels (source : Source σ) : List (Part (List Char)) → Run σ (List Char)
  | [] => pure []
  | .plain c :: rest => do
    let text ← fillLabels source rest
    pure (c :: text)
  | .found label :: rest => do
    let answer ← ask source (labelPrompt label)
    let text ← fillLabels source rest
    pure (shielded answer ++ text)

/-- The text with one answer in the place of every bare `$input`. -/
def fillInput (source : Source σ) (text : List Char) : Run σ (List Char) :=
  if occurs (word? Placeholder.input.spelled) text then do
    let answer ← ask source inputPrompt
    pure (replace (word? Placeholder.input.spelled) (fun _ => shielded answer) text)
  else pure text

/-- The text with one placeholder written as another. -/
def renamed (old new : Placeholder) (text : List Char) : List Char :=
  replace (word? old.spelled) (fun _ => new.spelled) text

/-- The text in which the clipboard and the yanked text are registers. -/
def withRegisters (text : List Char) : List Char :=
  renamed .yanked (.register '0') (renamed .clipboard (.register '+') text)

/-- The text with the contents of every register; a register in `known` is not read again. -/
def fillRegisters (source : Source σ) (known : List (Char × String)) :
    List (Part Char) → Run σ (List Char)
  | [] => pure []
  | .plain c :: rest => do
    let text ← fillRegisters source known rest
    pure (c :: text)
  | .found name :: rest =>
    match known.lookup name with
    | some value => do
      let text ← fillRegisters source known rest
      pure (shielded value ++ text)
    | none => do
      let value ← readRegister source name
      let text ← fillRegisters source (known ++ [(name, value)]) rest
      pure (shielded value ++ text)

/-- The text with the kind of file in the place of every `$filetype`. -/
def fillFiletype (source : Source σ) (text : List Char) : Run σ (List Char) :=
  if occurs (word? Placeholder.filetype.spelled) text then do
    let kind ← Run.ofCall source.filetype
    pure (replace (word? Placeholder.filetype.spelled) (fun _ => shielded kind) text)
  else pure text

/-! ### Whole bodies -/

/-- A finished text, and the origin that stood in for `$select`, if there was one. -/
structure Finished where
  text : String
  select : Option Origin
  deriving DecidableEq

/-- The body with every placeholder replaced; `reuse` answers `$select` without a question. -/
def substitute (source : Source σ) (reuse : Option Origin) (body : String) :
    Run σ Finished := do
  let choice ← choose source reuse body.toList
  let labelled ← fillLabels source (cut label? (withChoice choice body.toList))
  let answered ← fillInput source labelled
  let known ← fillRegisters source [] (cut register? (withRegisters answered))
  let text ← fillFiletype source known
  pure ⟨String.ofList (withoutMarks text), choice⟩

/-! ### Small facts -/

@[simp] theorem Run.pure_apply (value : α) (s : σ) :
    (Pure.pure value : Run σ α) s = (.ok value, s) := rfl

@[simp] theorem Run.stop_apply (reason : Stop) (s : σ) :
    (Run.stop reason : Run σ α) s = (.error reason, s) := rfl

theorem Run.bind_apply (run : Run σ α) (next : α → Run σ β) (s : σ) :
    (run >>= next) s =
      match run s with
      | (.ok value, s) => next value s
      | (.error reason, s) => (.error reason, s) := rfl

instance : LawfulMonad (Run σ) := LawfulMonad.mk' _
  (fun run => by
    funext s
    show Run.bind run Run.pure s = run s
    rw [Run.bind]
    cases run s with
    | mk result s => cases result <;> rfl)
  (fun _ _ => rfl)
  (fun run next last => by
    funext s
    simp only [Run.bind_apply]
    cases run s with
    | mk result s => cases result <;> rfl)

end Promptbook.Substitution
