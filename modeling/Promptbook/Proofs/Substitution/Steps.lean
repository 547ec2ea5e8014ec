import Promptbook.Distinct
import Promptbook.Proofs.Substitution.Settled

/-! The steps of a substitution, seen on parts.

Each step looks for its placeholders in the text that the steps before it left, values
included. Where that text is spelled by parts that stand, the step asks for what the
parts need and fills it in part by part: `fillLabels_spell` for the labels of a body,
and `fillInput_spell`, `fillRegisters_spell` and `fillFiletype_spell` for what is left
when they are gone. -/
namespace Promptbook.Substitution
open Text

/-! ### Labels -/

/-- The labels of the labelled placeholders, in order. -/
def labelsOf : List (Part Placeholder) → List (List Char)
  | [] => []
  | .found (.labelled label) :: rest => label :: labelsOf rest
  | _ :: rest => labelsOf rest

/-- The answers to these labels, in order. -/
def askLabels (source : Source σ) : List (List Char) → Run σ (List String)
  | [] => pure []
  | label :: rest => do
    let answer ← ask source (labelPrompt label)
    let answers ← askLabels source rest
    pure (answer :: answers)

/-- The parts with one answer after another in the place of labelled placeholders. -/
def putLabels : List String → List (Part Placeholder) → List (Part Placeholder)
  | _, [] => []
  | answers, .found (.labelled _) :: rest =>
    (shielded (answers.headD "")).map .plain ++ putLabels answers.tail rest
  | answers, part :: rest => part :: putLabels answers rest

theorem refilled_putLabels (answers : List String) (parts : List (Part Placeholder)) :
    Refilled parts (putLabels answers parts) := by
  induction parts generalizing answers with
  | nil => exact .nil
  | cons part rest ih =>
    cases part with
    | plain c => exact .plain c (ih answers)
    | found p =>
      cases p with
      | labelled label => exact .value _ _ (ih answers.tail)
      | _ => exact .renamed (fun _ h => h) (ih answers)

theorem found_mem_putLabels {answers : List String} {p : Placeholder}
    {parts : List (Part Placeholder)} :
    .found p ∈ putLabels answers parts ↔ .found p ∈ parts ∧ p.isLabelled = false := by
  induction parts generalizing answers with
  | nil => simp [putLabels]
  | cons part rest ih =>
    cases part with
    | plain c => simp [putLabels, ih]
    | found q =>
      cases q with
      | labelled label =>
        simp only [putLabels, List.mem_append, ih]
        constructor
        · intro h
          rcases h with h | h
          · simp at h
          · exact ⟨List.mem_cons_of_mem _ h.1, h.2⟩
        · intro h
          obtain ⟨h, hl⟩ := h
          rcases List.mem_cons.mp h with h | h
          · cases h
            cases hl
          · exact .inr ⟨h, hl⟩
      | _ =>
        simp only [putLabels, List.mem_cons, ih]
        constructor
        · intro h
          rcases h with h | h
          · cases h
            exact ⟨.inl rfl, rfl⟩
          · exact ⟨.inr h.1, h.2⟩
        · intro h
          obtain ⟨h | h, hl⟩ := h
          · exact .inl h
          · exact .inr ⟨h, hl⟩

theorem settled_putLabels {parts : List (Part Placeholder)}
    (hs : Standing (fun text => placeholder? text = none) parts) (answers : List String) :
    Settled (putLabels answers parts) :=
  ⟨(refilled_putLabels answers parts).standing (hs.mono fun _ => silent_of_none),
    fun _ hp => (found_mem_putLabels.mp hp).2⟩

theorem fillLabels_plain (source : Source σ) (text : List Char) (parts : List (Part (List Char))) :
    fillLabels source (text.map .plain ++ parts) = (do
      let after ← fillLabels source parts
      pure (text ++ after)) := by
  induction text with
  | nil => simp
  | cons c text ih => simp [fillLabels, ih]

theorem fillLabels_parts (source : Source σ) (parts : List (Part Placeholder)) :
    fillLabels source (parts.flatMap (seenBy Placeholder.label?)) = (do
      let answers ← askLabels source (labelsOf parts)
      pure (spell (putLabels answers parts))) := by
  induction parts with
  | nil => simp [fillLabels, labelsOf, askLabels, putLabels]
  | cons part rest ih =>
    cases part with
    | plain c => simp [seenBy, fillLabels, ih, labelsOf, putLabels]
    | found p =>
      cases p with
      | labelled label =>
        simp [seenBy, Placeholder.label?, fillLabels, ih, labelsOf, askLabels, putLabels]
      | _ =>
        simp [seenBy, Placeholder.label?, fillLabels_plain, ih, labelsOf, putLabels]

/-- **The labels of a body are asked for in order, and each answer goes where its label
stood.** -/
theorem fillLabels_spell (source : Source σ) {parts : List (Part Placeholder)}
    (hs : Standing (fun text => placeholder? text = none) parts) :
    fillLabels source (cut label? (spell parts)) = (do
      let answers ← askLabels source (labelsOf parts)
      pure (spell (putLabels answers parts))) := by
  rw [label?_among.cut_spell (hs.mono fun _ => label?_among.eq_none), fillLabels_parts]
  intro p _ hp
  cases p <;> first | rfl | cases hp

/-! ### Single words -/

/-- The parts with a value in the place of one placeholder, if there is a value. -/
def putWord (p : Placeholder) (value : Option String) (parts : List (Part Placeholder)) :
    List (Part Placeholder) :=
  putText (fun q => if q = p then value else none) parts

@[simp] theorem putWord_map_plain (p : Placeholder) (value : Option String) (text : List Char)
    (parts : List (Part Placeholder)) :
    putWord p value (text.map .plain ++ parts) = text.map .plain ++ putWord p value parts :=
  putText_map_plain _ text parts

theorem putWord_found_self (p : Placeholder) (value : String) (parts : List (Part Placeholder)) :
    putWord p (some value) (.found p :: parts) =
      (shielded value).map .plain ++ putWord p (some value) parts :=
  putText_found_some (if_pos rfl) parts

theorem putWord_found_other {p q : Placeholder} (h : q ≠ p) (value : Option String)
    (parts : List (Part Placeholder)) :
    putWord p value (.found q :: parts) = .found q :: putWord p value parts :=
  putText_found_none (if_neg h) parts

theorem settled_putWord {parts : List (Part Placeholder)} (h : Settled parts) (p : Placeholder)
    (value : Option String) : Settled (putWord p value parts) :=
  h.putText _

theorem putWord_none (p : Placeholder) (parts : List (Part Placeholder)) :
    putWord p none parts = parts := by
  induction parts with
  | nil => rfl
  | cons part rest ih =>
    rw [putWord] at ih ⊢
    cases part with
    | plain c => rw [putText_plain, ih]
    | found q => rw [putText_found, ih]; simp

theorem Settled.replace_eq_putWord {parts : List (Part Placeholder)} (hs : Settled parts)
    {p : Placeholder} (hp : p ∈ Placeholder.words) (value : String) :
    replace (word? p.spelled) (fun _ => shielded value) (spell parts) =
      spell (putWord p (some value) parts) := by
  rw [hs.replace_word hp, putWord, spell_putText]
  congr 2
  funext q
  by_cases hq : q = p <;> simp [hq]

/-- The one answer for every bare `$input`, if there is such a placeholder. -/
def askInput (source : Source σ) (parts : List (Part Placeholder)) : Run σ (Option String) :=
  if needs .input parts then do
    let answer ← ask source inputPrompt
    pure (some answer)
  else pure none

theorem fillInput_spell (source : Source σ) {parts : List (Part Placeholder)} (hs : Settled parts) :
    fillInput source (spell parts) = (do
      let answer ← askInput source parts
      pure (spell (putWord .input answer parts))) := by
  have hp : Placeholder.input ∈ Placeholder.words := by decide
  simp only [fillInput, askInput, hs.occurs_word hp, hs.replace_eq_putWord hp]
  split
  · simp
  · simp [putWord_none]

/-- The kind of file, if there is a placeholder for it. -/
def askFiletype (source : Source σ) (parts : List (Part Placeholder)) : Run σ (Option String) :=
  if needs .filetype parts then do
    let kind ← Run.ofCall source.filetype
    pure (some kind)
  else pure none

theorem fillFiletype_spell (source : Source σ) {parts : List (Part Placeholder)}
    (hs : Settled parts) :
    fillFiletype source (spell parts) = (do
      let kind ← askFiletype source parts
      pure (spell (putWord .filetype kind parts))) := by
  have hp : Placeholder.filetype ∈ Placeholder.words := by decide
  simp only [fillFiletype, askFiletype, hs.occurs_word hp, hs.replace_eq_putWord hp]
  split
  · simp
  · simp [putWord_none]

/-! ### Registers -/

/-- A part in which one placeholder is written as another. -/
def renamedPart (old new : Placeholder) : Part Placeholder → Part Placeholder
  | .plain c => .plain c
  | .found p => .found (if p = old then new else p)

theorem refilled_renamed {old new : Placeholder} (h : ∀ rest, old.Fits rest → new.Fits rest)
    (parts : List (Part Placeholder)) : Refilled parts (parts.map (renamedPart old new)) := by
  induction parts with
  | nil => exact .nil
  | cons part rest ih =>
    cases part with
    | plain c => exact .plain c ih
    | found p =>
      refine .renamed (fun after hp => ?_) ih
      by_cases ho : p = old
      · subst ho
        simpa using h after hp
      · simpa [ho] using hp

theorem Settled.renamed {parts : List (Part Placeholder)} (hs : Settled parts)
    {old new : Placeholder} (h : ∀ rest, old.Fits rest → new.Fits rest)
    (hl : new.isLabelled = false) : Settled (parts.map (renamedPart old new)) := by
  refine ⟨(refilled_renamed h parts).standing hs.standing, fun p hp => ?_⟩
  obtain ⟨part, hpart, heq⟩ := List.mem_map.mp hp
  cases part with
  | plain c => cases heq
  | found q =>
    simp only [renamedPart, Part.found.injEq] at heq
    split at heq
    · exact heq ▸ hl
    · exact heq ▸ hs.unlabelled q hpart

theorem renamed_spell {parts : List (Part Placeholder)} (hs : Settled parts)
    {old : Placeholder} (hp : old ∈ Placeholder.words) (new : Placeholder) :
    renamed old new (spell parts) = spell (parts.map (renamedPart old new)) := by
  rw [renamed, hs.replace_word hp, spell, List.flatMap_map]
  congr 1
  funext part
  cases part with
  | plain c => rfl
  | found p => by_cases ho : p = old <;> simp [Part.text, renamedPart, ho]

/-- A part in which the clipboard and the yanked text are registers. -/
def asRegister (part : Part Placeholder) : Part Placeholder :=
  renamedPart .yanked (.register '0') (renamedPart .clipboard (.register '+') part)

theorem clipboard_fits (rest : List Char) (_ : Placeholder.clipboard.Fits rest) :
    (Placeholder.register '+').Fits rest :=
  (by decide : isRegisterName '+' = true)

theorem yanked_fits (rest : List Char) (_ : Placeholder.yanked.Fits rest) :
    (Placeholder.register '0').Fits rest :=
  (by decide : isRegisterName '0' = true)

theorem Settled.asRegister {parts : List (Part Placeholder)} (hs : Settled parts) :
    Settled (parts.map asRegister) := by
  have h := (hs.renamed clipboard_fits rfl).renamed yanked_fits rfl
  rwa [List.map_map] at h

theorem withRegisters_spell {parts : List (Part Placeholder)} (hs : Settled parts) :
    withRegisters (spell parts) = spell (parts.map asRegister) := by
  rw [withRegisters, renamed_spell hs (by decide),
    renamed_spell (hs.renamed clipboard_fits rfl) (by decide), List.map_map]
  rfl

/-- The register that a placeholder stands for. -/
def Placeholder.register? : Placeholder → Option Char
  | .clipboard => some '+'
  | .yanked => some '0'
  | .register name => some name
  | _ => none

/-- The names of the registers that parts stand for, in order and with repetitions. -/
def namesOf : List (Part Placeholder) → List Char
  | [] => []
  | .plain _ :: rest => namesOf rest
  | .found p :: rest => p.register?.toList ++ namesOf rest

/-- The registers that parts stand for, each once, in order of first occurrence. -/
def registersOf (parts : List (Part Placeholder)) : List Char := distinct (namesOf parts)

/-- The contents of these registers, in order. -/
def askRegisters (source : Source σ) : List Char → Run σ (List (Char × String))
  | [] => pure []
  | name :: rest => do
    let value ← readRegister source name
    let values ← askRegisters source rest
    pure ((name, value) :: values)

/-- The parts with contents in the place of registers. -/
def putRegisters (values : List (Char × String)) (parts : List (Part Placeholder)) :
    List (Part Placeholder) :=
  putText (fun p => p.register?.map fun name => (values.lookup name).getD "") parts

theorem fillRegisters_plain (source : Source σ) (known : List (Char × String)) (text : List Char)
    (parts : List (Part Char)) :
    fillRegisters source known (text.map .plain ++ parts) = (do
      let after ← fillRegisters source known parts
      pure (text ++ after)) := by
  induction text with
  | nil => simp
  | cons c text ih => simp [fillRegisters, ih]

theorem seenBy_asRegister_some {p : Placeholder} {name : Char} (h : p.register? = some name) :
    seenBy Placeholder.registerName? (asRegister (.found p)) = [.found name] := by
  cases p <;> cases h <;> rfl

theorem seenBy_asRegister_none {p : Placeholder} (h : p.register? = none) :
    seenBy Placeholder.registerName? (asRegister (.found p)) = p.spelled.map .plain := by
  cases p <;> first | rfl | cases h

@[simp] theorem putRegisters_map_plain (values : List (Char × String)) (text : List Char)
    (parts : List (Part Placeholder)) :
    putRegisters values (text.map .plain ++ parts) = text.map .plain ++ putRegisters values parts :=
  putText_map_plain _ text parts

theorem putRegisters_found_none {p : Placeholder} (h : p.register? = none)
    (values : List (Char × String)) (parts : List (Part Placeholder)) :
    putRegisters values (.found p :: parts) = .found p :: putRegisters values parts :=
  putText_found_none (by rw [h]; rfl) parts

theorem putRegisters_found_some {values : List (Char × String)} {p : Placeholder} {name : Char}
    {value : String} (h : p.register? = some name) (hv : values.lookup name = some value)
    (parts : List (Part Placeholder)) :
    putRegisters values (.found p :: parts) =
      (shielded value).map .plain ++ putRegisters values parts :=
  putText_found_some (by rw [h, Option.map_some, hv]; rfl) parts

theorem settled_putRegisters {parts : List (Part Placeholder)} (h : Settled parts)
    (values : List (Char × String)) : Settled (putRegisters values parts) :=
  h.putText _

/-- The names of registers without a value yet, when one more has its value. -/
theorem filter_unknown (known : List (Char × String)) (name : Char) (value : String)
    (names : List Char) :
    names.filter (fun n => ((known ++ [(name, value)]).lookup n).isNone) =
      (names.filter (fun n => (known.lookup n).isNone)).filter (· ≠ name) := by
  rw [List.filter_filter]
  apply List.filter_congr
  intro n _
  rw [List.lookup_append]
  by_cases hn : n = name
  · simp [hn]
  · have hb : (n == name) = false := by simpa using hn
    simp [hn, List.lookup_cons, hb]

theorem fillRegisters_parts (source : Source σ) (known : List (Char × String))
    (parts : List (Part Placeholder)) :
    fillRegisters source known ((parts.map asRegister).flatMap (seenBy Placeholder.registerName?)) =
      (do
        let values ← askRegisters source
          (distinct ((namesOf parts).filter fun n => (known.lookup n).isNone))
        pure (spell (putRegisters (known ++ values) parts))) := by
  induction parts generalizing known with
  | nil => simp [fillRegisters, namesOf, askRegisters, putRegisters]
  | cons part rest ih =>
    cases part with
    | plain c => simp [asRegister, renamedPart, seenBy, fillRegisters, ih, namesOf, putRegisters]
    | found p =>
      rw [List.map_cons, List.flatMap_cons, namesOf]
      cases hp : p.register? with
      | none =>
        rw [seenBy_asRegister_none hp, fillRegisters_plain, ih]
        simp [putRegisters_found_none hp]
      | some name =>
        rw [seenBy_asRegister_some hp]
        cases hk : known.lookup name with
        | some value =>
          have hv : ∀ values, (known ++ values).lookup name = some value := by
            intro values
            rw [List.lookup_append, hk, Option.some_or]
          simp [fillRegisters, hk, ih, putRegisters_found_some hp (hv _)]
        | none =>
          have hv : ∀ value values, (known ++ (name, value) :: values).lookup name = some value := by
            intro value values
            rw [List.lookup_append, hk, Option.none_or, List.lookup_cons_self]
          simp [fillRegisters, hk, ih, filter_unknown, distinct, distinct_filter, askRegisters,
            putRegisters_found_some hp (hv _ _)]

/-- **Every register is read once, and its contents go wherever a placeholder stands for
it.** -/
theorem fillRegisters_spell (source : Source σ) {parts : List (Part Placeholder)}
    (hs : Settled parts) :
    fillRegisters source [] (cut register? (withRegisters (spell parts))) = (do
      let values ← askRegisters source (registersOf parts)
      pure (spell (putRegisters values parts))) := by
  have hr := hs.asRegister
  have hl : ∀ p what, Placeholder.registerName? p = some what → p.isLabelled = false := by
    intro p what h
    cases p <;> first | rfl | cases h
  rw [withRegisters_spell hs, register?_among.cut_spell (hr.standing_none register?_among hl)
    fun p hp _ => hr.unlabelled p hp, fillRegisters_parts]
  have hall : (namesOf parts).filter (fun n => (([] : List (Char × String)).lookup n).isNone) =
      namesOf parts := List.filter_eq_self.mpr fun _ _ => rfl
  rw [hall]
  rfl

end Promptbook.Substitution
