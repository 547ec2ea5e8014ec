import Promptbook.Proofs.Substitution.Calls
import Promptbook.Substitution.Scripted

/-! The text of a substitution.

`expand?` goes through the parts of a body once and writes every placeholder as the value
that it stands for, which nothing looks at again; it gives no text if a value is missing.
A substitution that finishes gives this expansion, with the values read off the calls
that it made, up to the two reserved characters (`text_of_substitute`). -/
namespace Promptbook.Substitution
open Text

/-! ### Expanding parts -/

/-- The text of parts, with one answer after another for the labelled placeholders. -/
def expand? (value : Placeholder → Option String) :
    List String → List (Part Placeholder) → Option (List Char)
  | _, [] => some []
  | answers, .plain c :: rest => do
    let text ← expand? value answers rest
    some (c :: text)
  | [], .found (.labelled _) :: _ => none
  | answer :: answers, .found (.labelled _) :: rest => do
    let text ← expand? value answers rest
    some (answer.toList ++ text)
  | answers, .found p :: rest => do
    let v ← value p
    let text ← expand? value answers rest
    some (v.toList ++ text)

/-- The placeholder whose value counts, once an origin has been chosen for `$select`. -/
def resolved (choice : Option Origin) : Placeholder → Placeholder
  | .select => choice.elim .select Origin.placeholder
  | p => p

theorem expand?_found {value : Placeholder → Option String} {p : Placeholder}
    (hl : p.isLabelled = false) (answers : List String) (rest : List (Part Placeholder)) :
    expand? value answers (.found p :: rest) = (do
      let v ← value p
      let text ← expand? value answers rest
      some (v.toList ++ text)) := by
  cases p with
  | labelled label => cases hl
  | _ => rw [expand?] <;> simp

/-- Expanding behind a choice, or resolving `$select` while expanding. -/
theorem expand?_chosenParts (value : Placeholder → Option String) (choice : Option Origin)
    (answers : List String) (parts : List (Part Placeholder)) :
    expand? value answers (chosenParts choice parts) =
      expand? (fun p => value (resolved choice p)) answers parts := by
  cases choice with
  | none =>
    have h : (fun p => value (resolved none p)) = value := by
      funext p
      cases p <;> rfl
    rw [h]
    rfl
  | some origin =>
    rw [chosenParts]
    induction parts generalizing answers with
    | nil => rfl
    | cons part rest ih =>
      cases part with
      | plain c =>
        show (do let text ← expand? value answers (rest.map (chosenPart origin)); some (c :: text)) = _
        rw [ih]
        rfl
      | found p =>
        cases p with
        | labelled label =>
          cases answers with
          | nil => rfl
          | cons answer answers =>
            show (do
              let text ← expand? value answers (rest.map (chosenPart origin))
              some (answer.toList ++ text)) = _
            rw [ih]
            rfl
        | select =>
          have hl : origin.placeholder.isLabelled = false := by cases origin <;> rfl
          rw [List.map_cons, chosenPart, expand?_found hl, ih, expand?_found rfl]
          rfl
        | _ =>
          rw [List.map_cons, chosenPart, expand?_found rfl, ih, expand?_found rfl]
          · rfl
          all_goals simp

/-! ### Reserved characters -/

theorem withoutMarks_append (a b : List Char) :
    withoutMarks (a ++ b) = withoutMarks a ++ withoutMarks b := by
  simp [withoutMarks]

/-- Shielding shows only in a text that still has its marks. -/
theorem withoutMarks_shielded (value : String) :
    withoutMarks (shielded value) = withoutMarks value.toList := by
  have hidden (text : List Char) :
      withoutMarks (text.map fun c => if c = '$' then dollarMark else c) = withoutMarks text := by
    induction text with
    | nil => rfl
    | cons c rest ih =>
      rw [List.map_cons, ← List.singleton_append, withoutMarks_append, ih, ← withoutMarks_append]
      by_cases hc : c = '$'
      · subst hc
        rfl
      · rw [if_neg hc]
        rfl
  have hedge : withoutMarks [edgeMark] = [] := by decide
  rw [shielded, ← List.singleton_append, List.append_assoc, withoutMarks_append, withoutMarks_append,
    hedge, hidden, List.append_nil, List.nil_append]

theorem withoutMarks_spell_shielded (value : String) {parts : List (Part Placeholder)}
    {text : List Char} (h : withoutMarks (spell parts) = withoutMarks text) :
    withoutMarks (spell ((shielded value).map .plain ++ parts)) =
      withoutMarks (value.toList ++ text) := by
  rw [spell_append, spell_map_plain, withoutMarks_append, withoutMarks_shielded, h,
    ← withoutMarks_append]

/-! ### Values in place -/

/-- The value of a placeholder without a label. -/
def Given.value? (given : Given) : Placeholder → Option String
  | .input => given.input
  | .filetype => given.filetype
  | p => p.register?.bind fun name => given.registers.lookup name

@[simp] theorem Given.put_plain (given : Given) (c : Char) (parts : List (Part Placeholder)) :
    given.put (.plain c :: parts) = .plain c :: given.put parts := rfl

theorem Given.put_labelled (given : Given) (answer : String) (label : List Char)
    (parts : List (Part Placeholder)) :
    Given.put { given with labels := answer :: given.labels } (.found (.labelled label) :: parts) =
      (shielded answer).map .plain ++ given.put parts := by
  simp only [Given.put, putLabels, List.headD_cons, List.tail_cons, putWord, putRegisters,
    putText_map_plain]

theorem Given.value?_eq_some {given : Given} {p : Placeholder} {v : String}
    (h : given.value? p = some v) :
    p = .input ∧ given.input = some v ∨ p = .filetype ∧ given.filetype = some v ∨
      ∃ name, p.register? = some name ∧ given.registers.lookup name = some v := by
  cases p with
  | input => exact .inl ⟨rfl, h⟩
  | filetype => exact .inr (.inl ⟨rfl, h⟩)
  | _ => exact .inr (.inr (Option.bind_eq_some_iff.mp h))

/-- A value is put into place by one step, and no later one changes it. -/
theorem Given.put_found {given : Given} {p : Placeholder} {v : String} (hl : p.isLabelled = false)
    (hv : given.value? p = some v) (parts : List (Part Placeholder)) :
    given.put (.found p :: parts) = (shielded v).map .plain ++ given.put parts := by
  have hlabels : putLabels given.labels (.found p :: parts) =
      .found p :: putLabels given.labels parts := by
    cases p with
    | labelled label => cases hl
    | _ => rfl
  rw [Given.put, hlabels, Given.put]
  rcases Given.value?_eq_some hv with ⟨rfl, hinput⟩ | ⟨rfl, hfiletype⟩ | ⟨name, hname, hlookup⟩
  · rw [hinput, putWord_found_self, putRegisters_map_plain, putWord_map_plain]
  · rw [putWord_found_other (by decide), putRegisters_found_none rfl, hfiletype, putWord_found_self]
  · have hinput : p ≠ .input := by
      intro h
      subst h
      cases hname
    rw [putWord_found_other hinput, putRegisters_found_some hname hlookup, putWord_map_plain]

/-- **Values put in place one step after another make the same text as an expansion.** -/
theorem withoutMarks_put {given : Given} (extra : List String) {parts : List (Part Placeholder)}
    (hlength : given.labels.length = (labelsOf parts).length)
    (hvalue : ∀ p, .found p ∈ parts → p.isLabelled = false → (given.value? p).isSome = true) :
    ∃ text, expand? given.value? (given.labels ++ extra) parts = some text ∧
      withoutMarks (spell (given.put parts)) = withoutMarks text := by
  obtain ⟨labels, input, registers, filetype⟩ := given
  induction parts generalizing labels with
  | nil => exact ⟨[], rfl, rfl⟩
  | cons part rest ih =>
    have hrest : ∀ p, .found p ∈ rest → p.isLabelled = false → _ :=
      fun p hp => hvalue p (List.mem_cons_of_mem _ hp)
    cases part with
    | plain c =>
      obtain ⟨text, htext, hmarks⟩ := ih labels hlength hrest
      refine ⟨c :: text, by rw [expand?, htext]; rfl, ?_⟩
      rw [Given.put_plain, spell_plain, ← List.singleton_append, withoutMarks_append, hmarks,
        ← withoutMarks_append, List.singleton_append]
    | found p =>
      by_cases hl : p.isLabelled = true
      · cases p with
        | labelled label =>
          cases labels with
          | nil => cases hlength
          | cons answer labels =>
            obtain ⟨text, htext, hmarks⟩ := ih labels (Nat.succ.inj hlength) hrest
            refine ⟨answer.toList ++ text, ?_, ?_⟩
            · have htext' : expand? (Given.value? ⟨answer :: labels, input, registers, filetype⟩)
                  (labels ++ extra) rest = some text := htext
              rw [List.cons_append, expand?, htext']
              rfl
            · rw [Given.put_labelled ⟨labels, input, registers, filetype⟩]
              exact withoutMarks_spell_shielded answer hmarks
        | _ => cases hl
      · rw [Bool.not_eq_true] at hl
        obtain ⟨v, hv⟩ := Option.isSome_iff_exists.mp (hvalue p List.mem_cons_self hl)
        have hlength' : labels.length = (labelsOf rest).length := by
          cases p with
          | labelled label => cases hl
          | _ => exact hlength
        obtain ⟨text, htext, hmarks⟩ := ih labels hlength' hrest
        refine ⟨v.toList ++ text, by rw [expand?_found hl, hv, htext]; rfl, ?_⟩
        rw [Given.put_found hl hv]
        exact withoutMarks_spell_shielded v hmarks

/-! ### Values in exchanges -/

namespace Exchange

/-- The text that was typed. -/
def typed? : Exchange → Option String
  | .input _ (.ok answer) => answer
  | _ => none

/-- The contents of this register. -/
def contents? (name : Char) : Exchange → Option String
  | .register n (.ok value) => if n = name then some value else none
  | _ => none

/-- The kind of file. -/
def kind? : Exchange → Option String
  | .filetype (.ok kind) => some kind
  | _ => none

end Exchange

/-- Everything that was typed, in order. -/
def typedIn (log : List Exchange) : List String := log.filterMap Exchange.typed?

/-- The value of a placeholder without a label, in a body with so many labels: the answer
for `$input` is typed after all of theirs. -/
def valueIn (log : List Exchange) (labels : Nat) : Placeholder → Option String
  | .input => (typedIn log)[labels]?
  | .filetype => log.findSome? Exchange.kind?
  | p => p.register?.bind fun name => log.findSome? (Exchange.contents? name)

theorem typedIn_labels {labels : List (List Char)} {answers : List String}
    (h : answers.length = labels.length) :
    typedIn (List.zipWith (fun label answer => .input (labelPrompt label) (.ok (some answer)))
      labels answers) = answers := by
  induction labels generalizing answers with
  | nil => exact (List.length_eq_zero_iff.mp h).symm
  | cons label labels ih =>
    cases answers with
    | nil => cases h
    | cons answer answers => exact congrArg (answer :: ·) (ih (Nat.succ.inj h))

theorem typedIn_log {labels : List (List Char)} {given : Given}
    (h : given.labels.length = labels.length) :
    typedIn (given.log labels) = given.labels ++ given.input.toList := by
  have hinput : typedIn (given.input.toList.map fun answer =>
      .input inputPrompt (.ok (some answer))) = given.input.toList := by
    cases given.input <;> rfl
  have hregisters : typedIn (given.registers.map fun p => .register p.1 (.ok p.2)) = [] := by
    simp [typedIn, Exchange.typed?]
  have hfiletype : typedIn (given.filetype.toList.map fun kind => .filetype (.ok kind)) = [] := by
    cases given.filetype <;> rfl
  have hlabels := typedIn_labels h
  simp only [typedIn] at hinput hregisters hfiletype hlabels ⊢
  simp only [Given.log, List.filterMap_append, hlabels, hinput, hregisters, hfiletype,
    List.append_nil]

/-- A search that passes over what was typed. -/
theorem findSome?_log {find : Exchange → Option β}
    (h : ∀ prompt answer, find (.input prompt answer) = none)
    (labels : List (List Char)) (given : Given) :
    (given.log labels).findSome? find =
      (given.registers.findSome? fun p => find (.register p.1 (.ok p.2))).or
        (given.filetype.bind fun kind => find (.filetype (.ok kind))) := by
  have hlabels (labels : List (List Char)) (answers : List String) :
      (List.zipWith (fun label answer => .input (labelPrompt label) (.ok (some answer)))
        labels answers).findSome? find = none := by
    induction labels generalizing answers with
    | nil => rfl
    | cons label labels ih =>
      cases answers with
      | nil => rfl
      | cons answer answers =>
        rw [List.zipWith_cons_cons, List.findSome?_cons, h]
        exact ih answers
  have hinput : (given.input.toList.map fun answer =>
      .input inputPrompt (.ok (some answer))).findSome? find = none := by
    cases given.input with
    | none => rfl
    | some answer => simp [h]
  have hfiletype : (given.filetype.toList.map fun kind => .filetype (.ok kind)).findSome? find =
      given.filetype.bind fun kind => find (.filetype (.ok kind)) := by
    cases given.filetype with
    | none => rfl
    | some kind => simp
  simp only [Given.log, List.findSome?_append, hlabels, hinput, hfiletype, List.findSome?_map,
    Option.none_or]
  rfl

theorem contents?_log (labels : List (List Char)) (given : Given) (name : Char) :
    (given.log labels).findSome? (Exchange.contents? name) = given.registers.lookup name := by
  rw [findSome?_log fun _ _ => rfl, List.lookup_eq_findSome?]
  have hfiletype : (given.filetype.bind fun kind =>
      Exchange.contents? name (.filetype (.ok kind))) = none := by
    cases given.filetype <;> rfl
  have hregister (n : Char) (value : String) :
      Exchange.contents? name (.register n (.ok value)) = if name == n then some value else none := by
    by_cases hn : n = name
    · simp [Exchange.contents?, hn]
    · simp [Exchange.contents?, hn, Ne.symm hn]
  simp only [hfiletype, hregister, Option.or_none]

theorem kind?_log (labels : List (List Char)) (given : Given) :
    (given.log labels).findSome? Exchange.kind? = given.filetype := by
  rw [findSome?_log fun _ _ => rfl]
  have h : (given.registers.findSome? fun p => Exchange.kind? (.register p.1 (.ok p.2))) = none := by
    simp [Exchange.kind?]
  rw [h]
  cases given.filetype <;> rfl

/-- Nothing is given for a placeholder while an origin is picked. -/
theorem valueIn_choiceLog_append (reuse choice : Option Origin) (parts : List (Part Placeholder))
    (log : List Exchange) :
    valueIn (choiceLog reuse choice parts ++ log) = valueIn log ∧
      typedIn (choiceLog reuse choice parts ++ log) = typedIn log := by
  rw [choiceLog]
  split
  · exact ⟨rfl, rfl⟩
  · exact ⟨rfl, rfl⟩

theorem valueIn_log {labels : List (List Char)} {given : Given}
    (h : given.labels.length = labels.length) :
    valueIn (given.log labels) labels.length = given.value? := by
  funext p
  cases p with
  | input =>
    show (typedIn (given.log labels))[labels.length]? = given.input
    rw [typedIn_log h, ← h]
    cases given.input <;> simp
  | filetype => exact kind?_log labels given
  | _ => simp only [valueIn, Given.value?, contents?_log]

/-! ### Whole bodies -/

/-- A choice stands in the labels too. -/
theorem labelsOf_chosenParts (choice : Option Origin) (parts : List (Part Placeholder)) :
    labelsOf (chosenParts choice parts) = (labelsOf parts).map (withChoice choice) := by
  cases choice with
  | none => exact (List.map_id _).symm
  | some origin =>
    rw [chosenParts]
    induction parts with
    | nil => rfl
    | cons part rest ih =>
      cases part with
      | plain c => exact ih
      | found p =>
        cases p with
        | labelled label => exact congrArg (chosenText origin label :: ·) ih
        | select => cases origin <;> exact ih
        | _ => exact ih

theorem length_labelsOf_chosenParts (choice : Option Origin) (parts : List (Part Placeholder)) :
    (labelsOf (chosenParts choice parts)).length = (labelsOf parts).length := by
  rw [labelsOf_chosenParts, List.length_map]

/-- Behind a choice no part is a `$select`. -/
theorem select_not_mem_chosenParts {choice : Option Origin} {parts : List (Part Placeholder)}
    (h : parts.any selects = true → choice.isSome = true) :
    .found .select ∉ chosenParts choice parts := by
  cases choice with
  | none =>
    intro hm
    exact absurd (h (List.any_eq_true.mpr ⟨_, hm, rfl⟩)) Bool.false_ne_true
  | some origin =>
    intro hm
    obtain ⟨part, -, hpart⟩ := List.mem_map.mp hm
    cases part with
    | plain c => cases hpart
    | found p =>
      cases p with
      | select => cases origin <;> cases hpart
      | _ => cases hpart

theorem mem_namesOf {p : Placeholder} {name : Char} (hn : p.register? = some name)
    {parts : List (Part Placeholder)} (hp : .found p ∈ parts) : name ∈ namesOf parts := by
  induction parts with
  | nil => cases hp
  | cons part rest ih =>
    rcases List.mem_cons.mp hp with rfl | hrest
    · simp [namesOf, hn]
    · cases part with
      | plain c => exact ih hrest
      | found q => exact List.mem_append_right _ (ih hrest)

/-- Values that cover parts leave no placeholder without one. -/
theorem Given.Covers.isSome {given : Given} {parts : List (Part Placeholder)} (h : given.Covers parts)
    {p : Placeholder} (hp : .found p ∈ parts) (hl : p.isLabelled = false) (hs : p ≠ .select) :
    (given.value? p).isSome = true := by
  have hregister (name : Char) (hn : p.register? = some name) :
      (given.registers.lookup name).isSome = true := by
    have hmem : name ∈ given.registers.map Prod.fst := by
      rw [h.registers, registersOf, mem_distinct]
      exact mem_namesOf hn hp
    obtain ⟨pair, hpair, rfl⟩ := List.mem_map.mp hmem
    exact List.lookup_isSome_iff.mpr ⟨pair, hpair, by simp⟩
  cases p with
  | labelled label => cases hl
  | select => exact absurd rfl hs
  | input => exact h.input (needs_iff.mpr hp)
  | filetype => exact h.filetype (needs_iff.mpr hp)
  | _ => exact hregister _ rfl

/-- **The text of a substitution is the expansion of the parts of its body**, each
placeholder with the value that was given for it, and is otherwise unchanged but for the
two reserved characters. -/
theorem text_of_substitute {source : Source σ} {reuse : Option Origin} {body : String} {s s' : σ}
    {finished : Finished} (h : substitute source reuse body s = (.ok finished, s')) :
    ∃ log, substitute source.witnessed reuse body (s, []) = (.ok finished, (s', log)) ∧
      finished.select = originIn reuse log (scan body.toList) ∧
      ∃ text, expand? (fun p => valueIn log (labelsOf (scan body.toList)).length
          (resolved finished.select p)) (typedIn log) (scan body.toList) = some text ∧
        finished.text = String.ofList (withoutMarks text) := by
  obtain ⟨log, hnoted, choice, hchoice, hlog⟩ := substitute_witnessed source reuse body s
  rw [h] at hnoted hlog
  obtain ⟨-, given, hgiven, rfl⟩ := hlog
  have hselect := hgiven.select
  have hlength := hgiven.covers.labels
  refine ⟨_, hnoted, hselect.trans hchoice, ?_⟩
  obtain ⟨hvalue, htyped⟩ := valueIn_choiceLog_append reuse choice (scan body.toList)
    (given.log (labelsOf (chosenParts choice (scan body.toList))))
  obtain ⟨text, htext, hmarks⟩ := withoutMarks_put given.input.toList hlength fun p hp hl =>
    hgiven.covers.isSome hp hl fun hs => select_not_mem_chosenParts hgiven.chosen (hs ▸ hp)
  refine ⟨text, ?_, by rw [hgiven.text, hmarks]⟩
  rw [hvalue, htyped, hselect, ← length_labelsOf_chosenParts choice, valueIn_log hlength,
    typedIn_log hlength, ← expand?_chosenParts]
  exact htext

/-- The clipboard holds what looks like a placeholder, and keeps it. -/
theorem text_of_substitute_greeting :
    ∃ log s', substitute Script.source.witnessed none "$\x7binput:Name\x7d: $select"
        (⟨[some "Ann"], none, some .clipboard, [('+', "$filetype")], "rust", [], 0⟩, []) =
        (.ok ⟨"Ann: $filetype", some .clipboard⟩, (s', log)) ∧
      ∃ text, expand? (fun p => valueIn log 1 (resolved (some .clipboard) p)) (typedIn log)
          (scan "$\x7binput:Name\x7d: $select".toList) = some text ∧
        "Ann: $filetype" = String.ofList (withoutMarks text) := by
  have h : substitute Script.source none "$\x7binput:Name\x7d: $select"
      ⟨[some "Ann"], none, some .clipboard, [('+', "$filetype")], "rust", [], 0⟩ =
      (.ok ⟨"Ann: $filetype", some .clipboard⟩,
        ⟨[], none, some .clipboard, [('+', "$filetype")], "rust", ["Source: ", "Name: "], 1⟩) := by
    decide +kernel
  obtain ⟨log, hnoted, -, text, htext, hfinished⟩ := text_of_substitute h
  exact ⟨log, _, hnoted, text, htext, hfinished⟩

end Promptbook.Substitution
