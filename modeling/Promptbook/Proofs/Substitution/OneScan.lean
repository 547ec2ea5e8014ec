import Promptbook.Proofs.Substitution.Steps

/-! A substitution is one scan.

What a run asks for after the choice of an origin depends on the parts of the body
alone, because no step adds a placeholder to what another one left: a run first gathers
values for these parts and then puts all of them in place (`substitute_eq`). The text
that comes out is what `expand?` makes of the parts, one after another
(`withoutMarks_put`). -/
namespace Promptbook.Substitution
open Text

/-- The parts of a body behind the choice of an origin. -/
def chosenParts (choice : Option Origin) (parts : List (Part Placeholder)) :
    List (Part Placeholder) :=
  match choice with
  | some origin => parts.map (chosenPart origin)
  | none => parts

theorem withChoice_spell (choice : Option Origin) {parts : List (Part Placeholder)}
    (hs : Standing (fun text => placeholder? text = none) parts) :
    withChoice choice (spell parts) = spell (chosenParts choice parts) := by
  cases choice with
  | none => rfl
  | some origin => exact chosenText_spell origin hs

theorem standing_chosenParts (choice : Option Origin) {parts : List (Part Placeholder)}
    (hs : Standing (fun text => placeholder? text = none) parts) :
    Standing (fun text => placeholder? text = none) (chosenParts choice parts) := by
  cases choice with
  | none => exact hs
  | some origin => exact standing_chosen origin hs

/-! ### Values for parts -/

/-- The values that were given for the placeholders of a body. -/
structure Given where
  /-- The answers for labelled placeholders, in order. -/
  labels : List String
  input : Option String
  /-- The contents of registers, each name once. -/
  registers : List (Char × String)
  filetype : Option String

/-- Asks for the values that parts need. -/
def gather (source : Source σ) (parts : List (Part Placeholder)) : Run σ Given := do
  let labels ← askLabels source (labelsOf parts)
  let input ← askInput source parts
  let registers ← askRegisters source (registersOf parts)
  let filetype ← askFiletype source parts
  pure ⟨labels, input, registers, filetype⟩

/-- The parts with all values in place, put there step by step. -/
def Given.put (given : Given) (parts : List (Part Placeholder)) : List (Part Placeholder) :=
  putWord .filetype given.filetype
    (putRegisters given.registers (putWord .input given.input (putLabels given.labels parts)))

/-! ### No step changes what the later ones need -/

theorem askInput_putLabels (source : Source σ) (answers : List String)
    (parts : List (Part Placeholder)) :
    askInput source (putLabels answers parts) = askInput source parts := by
  have h : needs .input (putLabels answers parts) = needs .input parts := by
    rw [Bool.eq_iff_iff, needs_iff, needs_iff, found_mem_putLabels]
    exact and_iff_left rfl
  simp only [askInput, h]

theorem namesOf_append (a b : List (Part Placeholder)) :
    namesOf (a ++ b) = namesOf a ++ namesOf b := by
  induction a with
  | nil => rfl
  | cons part rest ih => cases part <;> simp [namesOf, ih]

theorem namesOf_map_plain (text : List Char) : namesOf (text.map .plain) = [] := by
  induction text with
  | nil => rfl
  | cons c rest ih => exact ih

theorem namesOf_putLabels (answers : List String) (parts : List (Part Placeholder)) :
    namesOf (putLabels answers parts) = namesOf parts := by
  induction parts generalizing answers with
  | nil => rfl
  | cons part rest ih =>
    cases part with
    | plain c => exact ih answers
    | found p =>
      cases p with
      | labelled label =>
        rw [putLabels, namesOf_append, namesOf_map_plain, ih]
        rfl
      | _ => simp only [putLabels, namesOf, ih]

theorem namesOf_putText {value : Placeholder → Option String}
    (hv : ∀ p v, value p = some v → p.register? = none) (parts : List (Part Placeholder)) :
    namesOf (putText value parts) = namesOf parts := by
  induction parts with
  | nil => rfl
  | cons part rest ih =>
    cases part with
    | plain c => exact ih
    | found p =>
      rw [putText_found, namesOf_append, ih, namesOf]
      cases hp : value p with
      | some v => rw [namesOf_map_plain, hv p v hp]; rfl
      | none => simp [namesOf]

theorem registersOf_putWord_input (answer : Option String) (answers : List String)
    (parts : List (Part Placeholder)) :
    registersOf (putWord .input answer (putLabels answers parts)) = registersOf parts := by
  rw [registersOf, putWord, namesOf_putText, namesOf_putLabels, registersOf]
  intro p v hv
  by_cases hp : p = .input
  · rw [hp]; rfl
  · simp [hp] at hv

theorem askFiletype_put (source : Source σ) (values : List (Char × String))
    (answer : Option String) (answers : List String) (parts : List (Part Placeholder)) :
    askFiletype source (putRegisters values (putWord .input answer (putLabels answers parts))) =
      askFiletype source parts := by
  have h : needs .filetype (putRegisters values (putWord .input answer (putLabels answers parts))) =
      needs .filetype parts := by
    rw [Bool.eq_iff_iff, needs_iff, needs_iff, putRegisters, found_mem_putText, putWord,
      found_mem_putText, found_mem_putLabels]
    simp [Placeholder.register?, Placeholder.isLabelled]
  simp only [askFiletype, h]

/-- **A substitution chooses an origin, gathers values for the parts of the body, and puts
them in place.** -/
theorem substitute_eq (source : Source σ) (reuse : Option Origin) (body : String) :
    substitute source reuse body = (do
      let choice ← choose source reuse body.toList
      let given ← gather source (chosenParts choice (scan body.toList))
      pure ⟨String.ofList (withoutMarks
        (spell (given.put (chosenParts choice (scan body.toList))))), choice⟩) := by
  obtain ⟨hspell, hscan⟩ := scan_standing body.toList
  rw [substitute]
  congr 1
  funext choice
  have hs := standing_chosenParts choice hscan
  have htext : withChoice choice body.toList = spell (chosenParts choice (scan body.toList)) := by
    rw [← withChoice_spell choice hscan, hspell]
  have hlabels (answers : List String) := settled_putLabels hs answers
  have hinput (answers : List String) (answer : Option String) :=
    settled_putWord (hlabels answers) .input answer
  rw [htext, fillLabels_spell source hs]
  simp only [gather, bind_assoc, pure_bind]
  congr 1
  funext answers
  rw [fillInput_spell source (hlabels answers), askInput_putLabels]
  simp only [bind_assoc, pure_bind]
  congr 1
  funext answer
  rw [fillRegisters_spell source (hinput answers answer), registersOf_putWord_input]
  simp only [bind_assoc, pure_bind]
  congr 1
  funext values
  rw [fillFiletype_spell source (settled_putRegisters (hinput answers answer) values), askFiletype_put]
  simp only [bind_assoc, pure_bind]
  rfl

end Promptbook.Substitution
