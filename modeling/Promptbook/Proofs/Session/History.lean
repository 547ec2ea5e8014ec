import Promptbook.Proofs.Session.Steps

/-! What a session remembers of its history.

After any steps, a session holds what was published last and the default model that was set
last; its dot prompt is the prompt of the last run that gave a text, and its origin is that
of the last such run with a `$select` (`Remembers`). Every step keeps this (`Remembers.step`),
so it holds of every history (`Remembers.steps`). Runs that failed leave no trace: a history
without them leads to the same session (`afterAll_kept`). -/
namespace Promptbook.Session
open Substitution (Origin)

/-! ### Histories -/

/-- The session after all these steps. -/
def afterAll (session : Session) (steps : List Step) : Session := steps.foldl after session

/-- The session that nothing was done to yet. -/
def opened (start : Collection) : Session := { prompts := start }

def Step.published? : Step → Option Collection
  | .publish prompts => some prompts
  | .setModel _ => none
  | .run _ _ => none

def Step.model? : Step → Option (Option String)
  | .publish _ => none
  | .setModel model => some model
  | .run _ _ => none

/-- The run that a step is, if it is one that gives a text. -/
def Step.ran? (session : Session) : Step → Option Ran
  | .publish _ => none
  | .setModel _ => none
  | .run demand asked => session.ran? demand asked

/-- The runs that gave a text, in order. -/
def runs (session : Session) : List Step → List Ran
  | [] => []
  | step :: rest => (step.ran? session).toList ++ runs (session.after step) rest

/-- Whether a step does what it is for: only a run can fail to. -/
def Step.succeeds (session : Session) : Step → Bool
  | .publish _ => true
  | .setModel _ => true
  | .run demand asked => (session.answer demand asked).1.isOk

/-- The history without the runs that failed. -/
def kept (session : Session) : List Step → List Step
  | [] => []
  | step :: rest =>
    if step.succeeds session then step :: kept (session.after step) rest else kept session rest

theorem afterAll_append (session : Session) (a b : List Step) :
    session.afterAll (a ++ b) = (session.afterAll a).afterAll b := List.foldl_append

/-! ### What is remembered -/

/-- A session that remembers what was published, which models were set and what ran. -/
structure Remembers (start : Collection) (published : List Collection)
    (models : List (Option String)) (ran : List Ran) (session : Session) : Prop where
  prompts : session.prompts = published.getLast?.getD start
  defaultModel : session.defaultModel = models.getLast?.join
  dot : session.dot =
    ran.getLast?.map fun ran => { ran.prompt with name := ".", sourceFile := none }
  lastSelect : session.lastSelect =
    (ran.filter fun ran => selects ran.prompt).getLast?.bind Ran.origin
  origin : ∀ r ∈ ran, r.origin.isSome = selects r.prompt

theorem remembers_opened (start : Collection) : Remembers start [] [] [] (opened start) where
  prompts := rfl
  defaultModel := rfl
  dot := rfl
  lastSelect := rfl
  origin := by simp

section
variable {start : Collection} {published : List Collection} {models : List (Option String)}
  {ran : List Ran} {session : Session}

theorem Remembers.publish (h : Remembers start published models ran session) (prompts : Collection) :
    Remembers start (published ++ [prompts]) models ran (session.publish prompts) where
  prompts := by
    rw [List.getLast?_concat]
    rfl
  defaultModel := h.defaultModel
  dot := h.dot
  lastSelect := h.lastSelect
  origin := h.origin

theorem Remembers.setModel (h : Remembers start published models ran session)
    (model : Option String) :
    Remembers start published (models ++ [model]) ran (session.withDefaultModel model) where
  prompts := h.prompts
  defaultModel := by
    rw [List.getLast?_concat]
    rfl
  dot := h.dot
  lastSelect := h.lastSelect
  origin := h.origin

theorem Remembers.run (h : Remembers start published models ran session) {r : Ran}
    (hr : r.origin.isSome = selects r.prompt) :
    Remembers start published models (ran ++ [r]) (session.afterRun r.prompt r.origin) where
  prompts := h.prompts
  defaultModel := h.defaultModel
  dot := by
    rw [List.getLast?_concat]
    rfl
  lastSelect := by
    rw [List.filter_append, afterRun, h.lastSelect]
    cases horigin : r.origin with
    | none =>
      have hs : selects r.prompt = false := by rw [← hr, horigin]; rfl
      simp [hs]
    | some origin =>
      have hs : selects r.prompt = true := by rw [← hr, horigin]; rfl
      simp [hs, horigin]
  origin r' hm := by
    rcases List.mem_append.mp hm with hm | hm
    · exact h.origin r' hm
    · obtain rfl := List.mem_singleton.mp hm
      exact hr

/-- **Every step is remembered**, and a run that failed as if it had not been. -/
theorem Remembers.step (h : Remembers start published models ran session) (step : Step) :
    Remembers start (published ++ step.published?.toList) (models ++ step.model?.toList)
      (ran ++ (step.ran? session).toList) (session.after step) := by
  cases step with
  | publish prompts => simpa [Step.published?, Step.model?, Step.ran?, after] using h.publish prompts
  | setModel model =>
    simpa [Step.published?, Step.model?, Step.ran?, after] using h.setModel model
  | run demand asked =>
    simp only [Step.published?, Step.model?, Step.ran?, Option.toList_none, List.append_nil]
    cases hran : session.ran? demand asked with
    | none =>
      rw [after_run_of_ran?_none hran]
      simpa using h
    | some r =>
      obtain ⟨hafter, hr⟩ := after_run_of_ran? hran
      rw [hafter]
      exact h.run hr

theorem Remembers.steps (h : Remembers start published models ran session) (steps : List Step) :
    Remembers start (published ++ steps.filterMap Step.published?)
      (models ++ steps.filterMap Step.model?) (ran ++ session.runs steps)
      (session.afterAll steps) := by
  induction steps generalizing published models ran session with
  | nil => simpa [runs, afterAll] using h
  | cons step rest ih =>
    have hall := ih (h.step step)
    have hpublished : (step :: rest).filterMap Step.published? =
        step.published?.toList ++ rest.filterMap Step.published? := by
      cases hp : step.published? <;> simp [hp]
    have hmodel : (step :: rest).filterMap Step.model? =
        step.model?.toList ++ rest.filterMap Step.model? := by
      cases hm : step.model? <;> simp [hm]
    rw [hpublished, hmodel, runs, ← List.append_assoc, ← List.append_assoc, ← List.append_assoc]
    exact hall

end

/-! ### What leaves no trace -/

theorem after_of_fails {session : Session} {step : Step} (h : step.succeeds session = false) :
    session.after step = session := by
  cases step with
  | publish prompts => cases h
  | setModel model => cases h
  | run demand asked =>
    rw [Step.succeeds] at h
    cases hanswer : (session.answer demand asked).1 with
    | error trouble => exact after_run_of_error hanswer
    | ok request =>
      rw [hanswer] at h
      cases h

/-- **Runs that failed leave no trace.** -/
theorem afterAll_kept (session : Session) (steps : List Step) :
    session.afterAll (session.kept steps) = session.afterAll steps := by
  induction steps generalizing session with
  | nil => rfl
  | cons step rest ih =>
    rw [kept]
    cases h : step.succeeds session with
    | true => exact ih (session.after step)
    | false =>
      rw [if_neg Bool.false_ne_true, ih session]
      show session.afterAll rest = (session.after step).afterAll rest
      rw [after_of_fails h]

/-! ### Sessions -/

/-- **A session remembers its history.** The prompts, the default model, the dot prompt and
the origin are each given by the last step of their kind, and runs that failed count for
nothing. -/
theorem afterAll_opened (start : Collection) (steps : List Step) :
    ((opened start).afterAll steps).prompts =
        (steps.filterMap Step.published?).getLast?.getD start ∧
      ((opened start).afterAll steps).defaultModel =
        (steps.filterMap Step.model?).getLast?.join ∧
      ((opened start).afterAll steps).dot = ((opened start).runs steps).getLast?.map
        (fun ran => { ran.prompt with name := ".", sourceFile := none }) ∧
      ((opened start).afterAll steps).lastSelect =
        (((opened start).runs steps).filter fun ran => selects ran.prompt).getLast?.bind
          Ran.origin ∧
      (∀ ran ∈ (opened start).runs steps, ran.origin.isSome = selects ran.prompt) ∧
      (∀ demand asked trouble,
        (((opened start).afterAll steps).answer demand asked).1 = .error trouble →
          (opened start).afterAll (steps ++ [.run demand asked]) =
            (opened start).afterAll steps) ∧
      (∀ more, (opened start).afterAll ((opened start).kept steps ++ more) =
        (opened start).afterAll (steps ++ more)) ∧
      ((opened start).afterAll steps).find? "." = ((opened start).afterAll steps).dot ∧
      (∀ demand ∈ [Demand.named ".", .again],
        demand.prompt? ((opened start).afterAll steps) =
          ((opened start).afterAll steps).dot) := by
  have h := (remembers_opened start).steps steps
  simp only [List.nil_append] at h
  have hfind : ((opened start).afterAll steps).find? "." = ((opened start).afterAll steps).dot :=
    if_pos rfl
  refine ⟨h.prompts, h.defaultModel, h.dot, h.lastSelect, h.origin, ?_, ?_, hfind, ?_⟩
  · intro demand asked trouble herror
    rw [afterAll_append]
    exact after_run_of_error herror
  · intro more
    rw [afterAll_append, afterAll_append, afterAll_kept]
  · intro demand hm
    simp only [List.mem_cons, List.not_mem_nil, or_false] at hm
    rcases hm with rfl | rfl
    · exact hfind
    · rfl

end Promptbook.Session
