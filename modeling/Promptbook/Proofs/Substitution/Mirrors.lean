import Promptbook.Substitution.Engine

/-! Substitutions over sources that answer alike.

One source mirrors another, under a relation of their states, if every call but a choice is
answered the same by both and leaves them in related states. From the choice of an origin on,
a substitution over the one then goes as one over the other does (`Mirrors.afterChoice`), and
where the origin is settled there is no choice to be made (`choose_of_settled`). -/
namespace Promptbook.Substitution
open Text

/-! ### Runs that agree -/

/-- From related states both give the same result, in related states. -/
def Agree (rel : σ → τ → Prop) (run : σ → Except ε α × σ) (other : τ → Except ε α × τ) : Prop :=
  ∀ s t, rel s t → (run s).1 = (other t).1 ∧ rel (run s).2 (other t).2

section
variable {rel : σ → τ → Prop}

theorem agree_pure (value : α) : Agree rel (pure value : Run σ α) (pure value : Run τ α) :=
  fun _ _ h => ⟨rfl, h⟩

theorem agree_stop (reason : Stop) :
    Agree rel (Run.stop reason : Run σ α) (Run.stop reason : Run τ α) :=
  fun _ _ h => ⟨rfl, h⟩

theorem Agree.ofCall {call : Call σ α} {other : Call τ α} (h : Agree rel call other) :
    Agree rel (Run.ofCall call) (Run.ofCall other) := by
  intro s t hst
  obtain ⟨hresult, hstate⟩ := h s t hst
  rw [Run.ofCall, Run.ofCall]
  cases hcall : call s with
  | mk result s' =>
    cases hother : other t with
    | mk result' t' =>
      rw [hcall, hother] at hresult hstate
      obtain rfl : result = result' := hresult
      cases result with
      | ok value => exact ⟨rfl, hstate⟩
      | error error => exact ⟨rfl, hstate⟩

theorem Agree.bind {run : Run σ α} {other : Run τ α} {next : α → Run σ β} {next' : α → Run τ β}
    (h : Agree rel run other) (hn : ∀ value, Agree rel (next value) (next' value)) :
    Agree rel (run >>= next) (other >>= next') := by
  intro s t hst
  obtain ⟨hresult, hstate⟩ := h s t hst
  rw [Run.bind_apply, Run.bind_apply]
  cases hrun : run s with
  | mk result s' =>
    cases hother : other t with
    | mk result' t' =>
      rw [hrun, hother] at hresult hstate
      obtain rfl : result = result' := hresult
      cases result with
      | ok value => exact hn value s' t' hstate
      | error reason => exact ⟨rfl, hstate⟩

/-! ### Sources that mirror each other -/

/-- Every call but a choice is answered the same, and leaves related states. -/
structure Mirrors (rel : σ → τ → Prop) (source : Source σ) (other : Source τ) : Prop where
  input : ∀ prompt, Agree rel (source.input prompt) (other.input prompt)
  register : ∀ name, Agree rel (source.register name) (other.register name)
  filetype : Agree rel source.filetype other.filetype

variable {source : Source σ} {other : Source τ}

theorem Mirrors.ask (h : Mirrors rel source other) (prompt : String) :
    Agree rel (ask source prompt) (ask other prompt) := by
  refine (h.input prompt).ofCall.bind fun answer => ?_
  cases answer with
  | none => exact agree_stop .cancelled
  | some answer =>
    dsimp only
    split
    · exact agree_stop .cancelled
    · exact agree_pure answer

theorem Mirrors.readRegister (h : Mirrors rel source other) (name : Char) :
    Agree rel (readRegister source name) (readRegister other name) := by
  refine (h.register name).ofCall.bind fun value => ?_
  split
  · exact agree_stop (.emptyRegister name)
  · exact agree_pure value

theorem Mirrors.fillLabels (h : Mirrors rel source other) (parts : List (Part (List Char))) :
    Agree rel (fillLabels source parts) (fillLabels other parts) := by
  induction parts with
  | nil => exact agree_pure []
  | cons part rest ih =>
    cases part with
    | plain c => exact ih.bind fun text => agree_pure (c :: text)
    | found label =>
      refine (h.ask (labelPrompt label)).bind fun answer => ?_
      exact ih.bind fun text => agree_pure (shielded answer ++ text)

theorem Mirrors.fillInput (h : Mirrors rel source other) (text : List Char) :
    Agree rel (fillInput source text) (fillInput other text) := by
  unfold Substitution.fillInput
  split
  · exact (h.ask inputPrompt).bind fun _ => agree_pure _
  · exact agree_pure text

theorem Mirrors.fillRegisters (h : Mirrors rel source other) (known : List (Char × String))
    (parts : List (Part Char)) :
    Agree rel (fillRegisters source known parts) (fillRegisters other known parts) := by
  induction parts generalizing known with
  | nil => exact agree_pure []
  | cons part rest ih =>
    cases part with
    | plain c => exact (ih known).bind fun text => agree_pure (c :: text)
    | found name =>
      simp only [Substitution.fillRegisters]
      cases known.lookup name with
      | some value => exact (ih known).bind fun text => agree_pure (shielded value ++ text)
      | none =>
        refine (h.readRegister name).bind fun value => ?_
        exact (ih _).bind fun text => agree_pure (shielded value ++ text)

theorem Mirrors.fillFiletype (h : Mirrors rel source other) (text : List Char) :
    Agree rel (fillFiletype source text) (fillFiletype other text) := by
  unfold Substitution.fillFiletype
  split
  · exact h.filetype.ofCall.bind fun _ => agree_pure _
  · exact agree_pure text

end

/-! ### Behind the choice of an origin -/

/-- What a substitution does once an origin is chosen, or needs none. -/
def afterChoice (source : Source σ) (body : String) (choice : Option Origin) : Run σ Finished := do
  let labelled ← fillLabels source (cut label? (withChoice choice body.toList))
  let answered ← fillInput source labelled
  let known ← fillRegisters source [] (cut register? (withRegisters answered))
  let text ← fillFiletype source known
  pure ⟨String.ofList (withoutMarks text), choice⟩

theorem substitute_eq_afterChoice (source : Source σ) (reuse : Option Origin) (body : String) :
    substitute source reuse body = choose source reuse body.toList >>= afterChoice source body :=
  rfl

/-- **Behind the choice of an origin, a substitution goes as its source is mirrored.** -/
theorem Mirrors.afterChoice {rel : σ → τ → Prop} {source : Source σ} {other : Source τ}
    (h : Mirrors rel source other) (body : String) (choice : Option Origin) :
    Agree rel (afterChoice source body choice) (afterChoice other body choice) := by
  refine (h.fillLabels _).bind fun labelled => ?_
  refine (h.fillInput labelled).bind fun answered => ?_
  refine (h.fillRegisters [] _).bind fun known => ?_
  exact (h.fillFiletype known).bind fun text => agree_pure _

/-- An origin that is known, or that is not needed, is not asked for. -/
theorem choose_of_settled (source : Source σ) {reuse : Option Origin} {text : List Char}
    (h : occurs select? text = true → reuse.isSome = true) :
    choose source reuse text = pure (if occurs select? text = true then reuse else none) := by
  by_cases hs : occurs select? text = true
  · obtain ⟨origin, rfl⟩ := Option.isSome_iff_exists.mp (h hs)
    rw [if_pos hs]
    exact if_pos hs
  · rw [if_neg hs]
    exact if_neg hs

theorem substitute_of_settled (source : Source σ) {reuse : Option Origin} {body : String}
    (h : occurs select? body.toList = true → reuse.isSome = true) :
    substitute source reuse body =
      afterChoice source body (if occurs select? body.toList = true then reuse else none) := by
  rw [substitute_eq_afterChoice, choose_of_settled source h, pure_bind]

end Promptbook.Substitution
