import Promptbook.Proofs.Template.Segments

/-! Line numbers.

What a reader makes of its lines does not depend on how they are counted, but for the line
that an error names. Nor does it depend on the prompts that were finished before, which stay
in front of those that follow. So a reading can be moved to another place of a text: it then
gives the same prompts behind others, or the same error with its line counted from there
(`Reading.outcome_moved`). -/
namespace Promptbook.Template
open Text

/-! ### Reading to the end -/

/-- What a text gives that ends with these lines. -/
def Reading.outcome (rules : Rules) (reading : Reading) (number : Nat) (ls : List (List Char)) :
    Except ParseError (List Prompt) :=
  match reading.run rules number ls with
  | .ok last => last.finish rules
  | .error error => .error error

theorem parseLines_eq_outcome (rules : Rules) (ls : List (List Char)) :
    parseLines rules ls = Reading.outcome rules {} 1 ls := rfl

section
variable {rules : Rules} {reading next : Reading} {number : Nat} {error : ParseError}

theorem Reading.outcome_cons_of_ok {line : List Char}
    (h : reading.step rules number line = .ok next) (rest : List (List Char)) :
    reading.outcome rules number (line :: rest) = next.outcome rules (number + 1) rest := by
  rw [outcome, run_cons h]
  rfl

theorem Reading.outcome_cons_of_error {line : List Char}
    (h : reading.step rules number line = .error error) (rest : List (List Char)) :
    reading.outcome rules number (line :: rest) = .error error := by
  rw [outcome, run, h]

theorem Reading.outcome_append_of_ok {before : List (List Char)}
    (h : reading.run rules number before = .ok next) (rest : List (List Char)) :
    reading.outcome rules number (before ++ rest) =
      next.outcome rules (number + before.length) rest := by
  rw [outcome, run_append_of_ok h]
  rfl

theorem Reading.outcome_append_of_error {before : List (List Char)}
    (h : reading.run rules number before = .error error) (rest : List (List Char)) :
    reading.outcome rules number (before ++ rest) = .error error := by
  rw [outcome, run_append, h]

end

/-! ### Counting differently -/

/-- The error with its line counted differently. -/
def ParseError.renumber (f : Nat → Nat) (error : ParseError) : ParseError :=
  ⟨error.fault, f error.line⟩

/-- The place with its lines counted differently. -/
def Place.renumber (f : Nat → Nat) : Place → Place
  | .preamble => .preamble
  | .header fence said => .header (f fence) said
  | .body fence said lines => .body (f fence) said lines

/-- The reading with its lines counted differently, and with these prompts in front. -/
def Reading.moved (f : Nat → Nat) (before : List Prompt) (reading : Reading) : Reading :=
  ⟨reading.place.renumber f, reading.prompts ++ before.reverse⟩

/-- A result that was moved, with the line of an error counted differently. -/
def moveResult (f : Nat → Nat) (move : α → β) : Except ParseError α → Except ParseError β
  | .ok value => .ok (move value)
  | .error error => .error (error.renumber f)

theorem atLine_renumber (f : Nat → Nat) (line : Nat) (result : Except Fault α) :
    atLine (f line) result = moveResult f id (atLine line result) := by
  cases result <;> rfl

section
variable (rules : Rules) (f : Nat → Nat) (before : List Prompt)

theorem Reading.step_moved (reading : Reading) (number : Nat) (line : List Char) :
    (reading.moved f before).step rules (f number) line =
      moveResult f (moved f before) (reading.step rules number line) := by
  obtain ⟨place, prompts⟩ := reading
  cases place with
  | preamble =>
    simp only [step, moved, Place.renumber, moveResult]
    split <;> rfl
  | header fence said =>
    simp only [step, moved, Place.renumber, atLine_renumber]
    split
    · rfl
    · cases atLine number (said.read (trim line)) <;> rfl
  | body fence said lines =>
    simp only [step, moved, Place.renumber, atLine_renumber]
    split
    · cases atLine fence (said.toPrompt rules lines) <;> rfl
    · split <;> rfl

theorem Reading.run_moved (reading : Reading) {number number' : Nat}
    (hf : ∀ i, f (number + i) = number' + i) (ls : List (List Char)) :
    (reading.moved f before).run rules number' ls =
      moveResult f (moved f before) (reading.run rules number ls) := by
  induction ls generalizing reading number number' with
  | nil => rfl
  | cons line rest ih =>
    have hnumber : f number = number' := hf 0
    have hnext (i : Nat) : f (number + 1 + i) = number' + 1 + i := by
      rw [Nat.add_assoc, Nat.add_assoc, hf]
    rw [run, run, ← hnumber, step_moved]
    cases reading.step rules number line with
    | error error => rfl
    | ok next => exact hnumber ▸ ih next hnext

theorem Reading.finish_moved (reading : Reading) :
    (reading.moved f before).finish rules =
      moveResult f (before ++ ·) (reading.finish rules) := by
  obtain ⟨place, prompts⟩ := reading
  cases place with
  | preamble => simp [finish, moved, Place.renumber, moveResult]
  | header fence said => rfl
  | body fence said lines =>
    simp only [finish, moved, Place.renumber, atLine_renumber]
    cases atLine fence (said.toPrompt rules lines) with
    | error error => rfl
    | ok prompt => simp [moveResult]

/-- **A reading that is moved gives the same, behind other prompts and with other numbers.** -/
theorem Reading.outcome_moved (reading : Reading) {number number' : Nat}
    (hf : ∀ i, f (number + i) = number' + i) (ls : List (List Char)) :
    (reading.moved f before).outcome rules number' ls =
      moveResult f (before ++ ·) (reading.outcome rules number ls) := by
  rw [outcome, outcome, run_moved rules f before reading hf]
  cases reading.run rules number ls with
  | error error => rfl
  | ok last => exact finish_moved rules f before last

end

end Promptbook.Template
