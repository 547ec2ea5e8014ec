import Promptbook.Proofs.Substitution.OneScan
import Promptbook.Proofs.Substitution.Transcript

/-! The calls of a substitution.

Gathering values follows the plan that can be read off the parts of a body
(`gather_follows`): the labels in order, the bare input once, each register once, and
the kind of file. A whole substitution first settles on an origin and then follows the
plan of the parts behind that choice (`substitute_witnessed`). -/
namespace Promptbook.Substitution
open Text

/-! ### Values for parts -/

theorem askLabels_follows (source : Source σ) (labels : List (List Char)) :
    Follows (labels.map fun label => .input (labelPrompt label)) (askLabels source labels)
      (askLabels source.witnessed labels) fun answers new => answers.length = labels.length ∧
        new = List.zipWith (fun label answer => .input (labelPrompt label) (.ok (some answer)))
          labels answers := by
  induction labels with
  | nil => exact follows_pure ⟨rfl, rfl⟩
  | cons label rest ih =>
    refine (ask_follows source (labelPrompt label)).bind fun answer _ hanswer => ?_
    subst hanswer
    refine ih.map (answer :: ·) fun answers new h => ?_
    obtain ⟨hlength, rfl⟩ := h
    exact ⟨by simp [hlength], rfl⟩

theorem askRegisters_follows (source : Source σ) (names : List Char) :
    Follows (names.map .register) (askRegisters source names)
      (askRegisters source.witnessed names) fun values new => values.map Prod.fst = names ∧
        new = values.map fun p => .register p.1 (.ok p.2) := by
  induction names with
  | nil => exact follows_pure ⟨rfl, rfl⟩
  | cons name rest ih =>
    refine (readRegister_follows source name).bind fun value _ hvalue => ?_
    subst hvalue
    refine ih.map ((name, value) :: ·) fun values new h => ?_
    obtain ⟨hnames, rfl⟩ := h
    exact ⟨by simp [hnames], rfl⟩

theorem askInput_follows (source : Source σ) (parts : List (Part Placeholder)) :
    Follows (if needs .input parts then [.input inputPrompt] else []) (askInput source parts)
      (askInput source.witnessed parts) fun answer new =>
        (needs .input parts = true → answer.isSome = true) ∧
          new = answer.toList.map fun answer => .input inputPrompt (.ok (some answer)) := by
  unfold askInput
  split
  · refine (ask_follows source inputPrompt).map some fun answer new h => ?_
    exact ⟨fun _ => rfl, h⟩
  · next h => exact follows_pure ⟨fun hm => absurd hm h, rfl⟩

theorem askFiletype_follows (source : Source σ) (parts : List (Part Placeholder)) :
    Follows (if needs .filetype parts then [.filetype] else []) (askFiletype source parts)
      (askFiletype source.witnessed parts) fun kind new =>
        (needs .filetype parts = true → kind.isSome = true) ∧
          new = kind.toList.map fun kind => .filetype (.ok kind) := by
  unfold askFiletype
  split
  · refine follows_call (fun _ _ => rfl) (fun _ => rfl) (fun _ => rfl) fun kind => ?_
    exact .inr ⟨some kind, rfl, rfl, rfl, fun _ => rfl, rfl⟩
  · next h => exact follows_pure ⟨fun hm => absurd hm h, rfl⟩

/-- The calls that parts need, in order. -/
def wanted (parts : List (Part Placeholder)) : List Request :=
  (labelsOf parts).map (fun label => .input (labelPrompt label)) ++
    (if needs .input parts then [.input inputPrompt] else []) ++
    (registersOf parts).map .register ++
    (if needs .filetype parts then [.filetype] else [])

/-- The exchanges in which values were given for these labels and for what else there is. -/
def Given.log (labels : List (List Char)) (given : Given) : List Exchange :=
  List.zipWith (fun label answer => .input (labelPrompt label) (.ok (some answer)))
      labels given.labels ++
    given.input.toList.map (fun answer => .input inputPrompt (.ok (some answer))) ++
    given.registers.map (fun p => .register p.1 (.ok p.2)) ++
    given.filetype.toList.map fun kind => .filetype (.ok kind)

/-- The values are all that the parts need. -/
structure Given.Covers (given : Given) (parts : List (Part Placeholder)) : Prop where
  labels : given.labels.length = (labelsOf parts).length
  input : needs .input parts = true → given.input.isSome = true
  registers : given.registers.map Prod.fst = registersOf parts
  filetype : needs .filetype parts = true → given.filetype.isSome = true

/-- **Gathering values makes the calls that the parts need**, and gives what they were
answered with. -/
theorem gather_follows (source : Source σ) (parts : List (Part Placeholder)) :
    Follows (wanted parts) (gather source parts) (gather source.witnessed parts)
      fun given new => given.Covers parts ∧ new = given.log (labelsOf parts) := by
  rw [wanted, List.append_assoc, List.append_assoc]
  refine (askLabels_follows source (labelsOf parts)).bind fun labels before hlabels => ?_
  refine (askInput_follows source parts).bind fun input before' hinput => ?_
  refine (askRegisters_follows source (registersOf parts)).bind fun registers before'' hregisters => ?_
  refine (askFiletype_follows source parts).map _ fun filetype new hfiletype => ?_
  obtain ⟨hlength, rfl⟩ := hlabels
  obtain ⟨hinput, rfl⟩ := hinput
  obtain ⟨hnames, rfl⟩ := hregisters
  obtain ⟨hfiletype, rfl⟩ := hfiletype
  refine ⟨⟨hlength, hinput, hnames, hfiletype⟩, ?_⟩
  rw [Given.log, List.append_assoc, List.append_assoc]

/-! ### Whole bodies -/

/-- The origin that an exchange settled on. -/
def Exchange.picked? : Exchange → Option Origin
  | .choose _ _ (.ok origin) => origin
  | _ => none

/-- The origin for `$select` after these exchanges: the one given beforehand, or else the
one that was picked. -/
def originIn (reuse : Option Origin) (log : List Exchange) (parts : List (Part Placeholder)) :
    Option Origin :=
  if parts.any selects then reuse <|> log.findSome? Exchange.picked? else none

/-- The calls for a body, in order, once `choice` has been made. -/
def planned (reuse choice : Option Origin) (parts : List (Part Placeholder)) : List Request :=
  (if parts.any selects ∧ reuse = none then [.choose selectPrompt Origin.all] else []) ++
    wanted (chosenParts choice parts)

/-- The exchange in which an origin was picked, if one had to be. -/
def choiceLog (reuse choice : Option Origin) (parts : List (Part Placeholder)) : List Exchange :=
  if parts.any selects ∧ reuse = none then [.choose selectPrompt Origin.all (.ok choice)] else []

theorem choose_follows (source : Source σ) (reuse : Option Origin) (body : List Char) :
    Follows (if (scan body).any selects ∧ reuse = none then [.choose selectPrompt Origin.all] else [])
      (choose source reuse body) (choose source.witnessed reuse body) fun choice new =>
        ((scan body).any selects = true → choice.isSome = true) ∧
          choice = originIn reuse new (scan body) ∧ new = choiceLog reuse choice (scan body) := by
  obtain ⟨hspell, hscan⟩ := scan_standing body
  have hoccurs : occurs select? body = (scan body).any selects := by
    rw [← occurs_select_spell hscan, hspell]
  simp only [choose, hoccurs, originIn, choiceLog]
  cases (scan body).any selects with
  | false => exact follows_pure ⟨fun h => absurd h Bool.false_ne_true, rfl, rfl⟩
  | true =>
    cases reuse with
    | some origin => exact follows_pure ⟨fun _ => rfl, rfl, rfl⟩
    | none =>
      refine follows_call (fun _ _ => rfl) (fun _ => rfl) (fun _ => rfl) fun answer => ?_
      cases answer with
      | none => exact .inl ⟨.cancelled, rfl, rfl, rfl⟩
      | some origin => exact .inr ⟨some origin, rfl, rfl, rfl, fun _ => rfl, rfl, rfl⟩

/-- Giving values settles on no origin. -/
theorem picked?_of_wanted {parts : List (Part Placeholder)} {log : List Exchange}
    (h : log.map Exchange.request <+: wanted parts) : log.findSome? Exchange.picked? = none := by
  rw [List.findSome?_eq_none_iff]
  intro e he
  have hmem : e.request ∈ wanted parts := h.subset (List.mem_map_of_mem he)
  cases e with
  | choose prompt origins answer =>
    simp only [wanted, Exchange.request, List.mem_append, List.mem_map] at hmem
    rcases hmem with ((⟨_, _, hm⟩ | hm) | ⟨_, _, hm⟩) | hm
    · cases hm
    · split at hm <;> simp at hm
    · cases hm
    · split at hm <;> simp at hm
  | _ => rfl

theorem originIn_append (reuse : Option Origin) {before log : List Exchange}
    {parts parts' : List (Part Placeholder)} (h : log.map Exchange.request <+: wanted parts') :
    originIn reuse (before ++ log) parts = originIn reuse before parts := by
  rw [originIn, originIn, List.findSome?_append, picked?_of_wanted h, Option.or_none]

/-- What a finished substitution has to show: its origin, and values that its text is made
of, given in the exchanges that were written down. -/
structure Documented (parts : List (Part Placeholder)) (choice : Option Origin)
    (finished : Finished) (given : Given) : Prop where
  select : finished.select = choice
  chosen : parts.any selects = true → choice.isSome = true
  covers : given.Covers (chosenParts choice parts)
  text : finished.text = String.ofList (withoutMarks (spell (given.put (chosenParts choice parts))))

theorem finish_follows (source : Source σ) {choice : Option Origin}
    {parts : List (Part Placeholder)} (hc : parts.any selects = true → choice.isSome = true) :
    Follows (wanted (chosenParts choice parts))
      (do
        let given ← gather source (chosenParts choice parts)
        pure ⟨String.ofList (withoutMarks (spell (given.put (chosenParts choice parts)))), choice⟩)
      (do
        let given ← gather source.witnessed (chosenParts choice parts)
        pure ⟨String.ofList (withoutMarks (spell (given.put (chosenParts choice parts)))), choice⟩)
      fun finished new => ∃ given, Documented parts choice finished given ∧
        new = given.log (labelsOf (chosenParts choice parts)) := by
  refine (gather_follows source (chosenParts choice parts)).map _ fun given new h => ?_
  exact ⟨given, ⟨rfl, hc, h.1, rfl⟩, h.2⟩

/-- **A witness changes nothing about a substitution, and sees the planned calls**: all of
them, with the values that the text is made of, or those up to the first that stops it. -/
theorem substitute_witnessed (source : Source σ) (reuse : Option Origin) (body : String) (s : σ) :
    ∃ log, substitute source.witnessed reuse body (s, []) =
        ((substitute source reuse body s).1, ((substitute source reuse body s).2, log)) ∧
      ∃ choice, choice = originIn reuse log (scan body.toList) ∧
        match (substitute source reuse body s).1 with
        | .ok finished => Completed (planned reuse choice (scan body.toList)) log ∧
            ∃ given, Documented (scan body.toList) choice finished given ∧
              log = choiceLog reuse choice (scan body.toList) ++
                given.log (labelsOf (chosenParts choice (scan body.toList)))
        | .error reason => Halted (planned reuse choice (scan body.toList)) reason log := by
  rw [substitute_eq, substitute_eq]
  obtain ⟨before, hnoted, hbefore⟩ := choose_follows source reuse body.toList s []
  cases hrun : choose source reuse body.toList s with
  | mk result t =>
    rw [hrun] at hnoted hbefore
    cases result with
    | error reason =>
      refine ⟨before, ?_, originIn reuse before (scan body.toList), rfl, ?_⟩
      · rw [Run.bind_apply, Run.bind_apply, hrun, hnoted]
        rfl
      · rw [Run.bind_apply, hrun]
        exact hbefore.before _
    | ok choice =>
      obtain ⟨hcompleted, hchosen, hchoice, hlog⟩ := hbefore
      obtain ⟨new, hnoted', hnew⟩ := finish_follows source hchosen t before
      refine ⟨before ++ new, ?_, choice, ?_, ?_⟩
      · rw [Run.bind_apply, Run.bind_apply, hrun, hnoted]
        exact hnoted'
      · have hprefix :
            new.map Exchange.request <+: wanted (chosenParts choice (scan body.toList)) := by
          split at hnew
          · exact hnew.1.requests ▸ List.prefix_rfl
          · exact hnew.requests
        rw [originIn_append reuse hprefix, hchoice]
      · rw [Run.bind_apply, hrun]
        dsimp only
        split at hnew
        · next finished hresult =>
          rw [hresult]
          obtain ⟨hall, given, hdocumented, rfl⟩ := hnew
          exact ⟨hcompleted.append hall, given, hdocumented, by rw [hlog]⟩
        · next reason hresult =>
          rw [hresult]
          exact hcompleted.halted hnew

/-- **The calls of a substitution are the planned ones, up to the first that stops it.**
They are made up to the end and answered exactly when the substitution finishes; the
last call of one that stops says why it stopped. -/
theorem calls_of_substitute (source : Source σ) (reuse : Option Origin) (body : String) (s : σ) :
    ∃ log, substitute source.witnessed reuse body (s, []) =
        ((substitute source reuse body s).1, ((substitute source reuse body s).2, log)) ∧
      ∃ plan, plan = planned reuse (originIn reuse log (scan body.toList)) (scan body.toList) ∧
        log.map Exchange.request <+: plan ∧
        ((∃ finished, (substitute source reuse body s).1 = .ok finished) ↔
          log.map Exchange.request = plan ∧ ∀ e ∈ log, e.stop? = none) ∧
        ∀ reason, (substitute source reuse body s).1 = .error reason →
          ∃ before e, log = before ++ [e] ∧ (∀ e ∈ before, e.stop? = none) ∧
            e.stop? = some reason := by
  obtain ⟨log, hnoted, choice, rfl, hlog⟩ := substitute_witnessed source reuse body s
  refine ⟨log, hnoted, _, rfl, ?_⟩
  cases hresult : (substitute source reuse body s).1 with
  | ok finished =>
    rw [hresult] at hlog
    obtain ⟨hcompleted, -⟩ := hlog
    refine ⟨hcompleted.requests ▸ List.prefix_rfl, ⟨fun _ => ?_, fun _ => ⟨finished, rfl⟩⟩, ?_⟩
    · exact ⟨hcompleted.requests, hcompleted.free⟩
    · intro reason h
      cases h
  | error reason =>
    rw [hresult] at hlog
    obtain ⟨before, e, hbefore, hfree, he⟩ := hlog.last
    refine ⟨hlog.requests, ⟨?_, ?_⟩, ?_⟩
    · intro h
      obtain ⟨finished, h⟩ := h
      cases h
    · intro h
      obtain ⟨-, hall⟩ := h
      have hnone := hall e (by simp [hbefore])
      rw [he] at hnone
      cases hnone
    · intro reason' h
      cases h
      exact ⟨before, e, hbefore, hfree, he⟩

end Promptbook.Substitution
