import Promptbook.Workspace.Session

/-! What one step does to a session.

A step publishes prompts, sets the default model, or asks for a run, of a named prompt, of a
prompt that need not be published, or of the last one again. A run either gives a text, and
the session then remembers its prompt and the origin that it used, or it fails, and the
session is what it was (`after_run_of_error`). -/
namespace Promptbook

namespace Substitution

/-- A run of two parts that gives a value went through both. -/
theorem ok_of_bind {run : Run σ α} {next : α → Run σ β} {s s' : σ} {value : β}
    (h : (run >>= next) s = (.ok value, s')) :
    ∃ first between, run s = (.ok first, between) ∧ next first between = (.ok value, s') := by
  rw [Run.bind_apply] at h
  cases hrun : run s with
  | mk result between =>
    rw [hrun] at h
    cases result with
    | error reason => cases h
    | ok first => exact ⟨first, between, rfl, h⟩

/-- Whoever is asked for an origin and goes on has picked one. -/
theorem ok_of_choose_asked {source : Source σ} {text : List Char} {s s' : σ}
    {choice : Option Origin} (h : occurs select? text = true)
    (hchoose : choose source none text s = (.ok choice, s')) :
    (source.choose selectPrompt Origin.all s).1 = .ok choice ∧ choice.isSome = true := by
  simp only [choose, h, if_true] at hchoose
  obtain ⟨picked, between, hcall, hpicked⟩ := ok_of_bind hchoose
  unfold Run.ofCall at hcall
  cases hanswer : source.choose selectPrompt Origin.all s with
  | mk result after =>
    rw [hanswer] at hcall
    cases result with
    | error error => cases hcall
    | ok answer =>
      obtain rfl := Except.ok.inj (Prod.mk.inj hcall).1
      cases answer with
      | none => cases hpicked
      | some origin =>
        obtain rfl := Except.ok.inj (Prod.mk.inj hpicked).1
        exact ⟨rfl, rfl⟩

/-- A substitution reports the origin that it chose at its start. -/
theorem choose_of_substitute {source : Source σ} {reuse : Option Origin} {body : String} {s s' : σ}
    {done : Finished} (h : substitute source reuse body s = (.ok done, s')) :
    ∃ between, choose source reuse body.toList s = (.ok done.select, between) := by
  obtain ⟨choice, chosen, hchoose, h⟩ := ok_of_bind h
  obtain ⟨labelled, _, -, h⟩ := ok_of_bind h
  obtain ⟨answered, _, -, h⟩ := ok_of_bind h
  obtain ⟨known, _, -, h⟩ := ok_of_bind h
  obtain ⟨text, _, -, h⟩ := ok_of_bind h
  obtain ⟨hdone, -⟩ := Prod.mk.inj h
  obtain rfl := Except.ok.inj hdone
  exact ⟨chosen, hchoose⟩

end Substitution

namespace Session
open Substitution (Origin Source)

/-! ### Steps -/

/-- A source, and the state that it is in. -/
structure Asked : Type 1 where
  {σ : Type}
  source : Source σ
  state : σ

/-- What a run is asked to run. -/
inductive Demand where
  | named (name : String)
  | given (prompt : Prompt)
  /-- The prompt that ran last, with the last origin. -/
  | again

/-- What can be done to a session. -/
inductive Step : Type 1 where
  | publish (prompts : Collection)
  | setModel (model : Option String)
  | run (demand : Demand) (asked : Asked)

/-- The answer to a run, the session behind it and the source behind it. -/
def answer (session : Session) (demand : Demand) (asked : Asked) : Outcome asked.σ :=
  match demand with
  | .named name => session.prepare asked.source name asked.state
  | .given prompt => session.preparePrompt asked.source prompt asked.state
  | .again => session.rerun asked.source asked.state

/-- The session after a step. -/
def after (session : Session) : Step → Session
  | .publish prompts => session.publish prompts
  | .setModel model => session.withDefaultModel model
  | .run demand asked => (session.answer demand asked).2.1

/-! ### What a run uses -/

/-- The prompt that would run. -/
def Demand.prompt? (session : Session) : Demand → Option Prompt
  | .named name => session.find? name
  | .given prompt => some prompt
  | .again => session.dot

/-- The origin that answers for the user. -/
def Demand.reuse (session : Session) : Demand → Option Origin
  | .named _ => none
  | .given _ => none
  | .again => session.lastSelect

/-- Whether the body of a prompt has a `$select`. -/
def selects (prompt : Prompt) : Bool :=
  Substitution.occurs Substitution.select? prompt.body.toList

/-- The origin that the source picks when it is asked for one. -/
def picked? (asked : Asked) : Option Origin :=
  match (asked.source.choose Substitution.selectPrompt Origin.all asked.state).1 with
  | .ok picked => picked
  | .error _ => none

/-- The origin that a run takes its `$select` from, if it has one: an origin that is known, or
else the one that the source picks. -/
def originUsed (asked : Asked) (reuse : Option Origin) (prompt : Prompt) : Option Origin :=
  if selects prompt then reuse.or (picked? asked) else none

/-- A run that gave a text: its prompt, and the origin that it used. -/
structure Ran where
  prompt : Prompt
  origin : Option Origin

/-- The run that was asked for, if it gave a text. -/
def ran? (session : Session) (demand : Demand) (asked : Asked) : Option Ran :=
  match (session.answer demand asked).1 with
  | .ok _ => (demand.prompt? session).map fun prompt =>
    ⟨prompt, originUsed asked (demand.reuse session) prompt⟩
  | .error _ => none

/-! ### What a run does -/

theorem choose_eq_ok {asked : Asked} {reuse choice : Option Origin} {prompt : Prompt}
    {between : asked.σ}
    (h : Substitution.choose asked.source reuse prompt.body.toList asked.state =
      (.ok choice, between)) :
    choice = originUsed asked reuse prompt ∧ choice.isSome = selects prompt := by
  by_cases hs : selects prompt = true
  · rw [originUsed, if_pos hs, hs]
    cases reuse with
    | none =>
      obtain ⟨hanswer, hpicked⟩ := Substitution.ok_of_choose_asked hs h
      exact ⟨by rw [Option.none_or, picked?, hanswer], hpicked⟩
    | some origin =>
      have hknown : Substitution.choose asked.source (some origin) prompt.body.toList =
          pure (some origin) := if_pos hs
      rw [hknown] at h
      obtain rfl := Except.ok.inj (Prod.mk.inj h).1
      exact ⟨rfl, rfl⟩
  · have hnone : Substitution.choose asked.source reuse prompt.body.toList = pure none := if_neg hs
    rw [hnone] at h
    obtain rfl := Except.ok.inj (Prod.mk.inj h).1
    exact ⟨by rw [originUsed, if_neg hs], (Bool.eq_false_iff.mpr hs).symm⟩

/-- A run that gives a text is remembered, with the origin that it used. -/
theorem run_of_ok {session : Session} {asked : Asked} {reuse : Option Origin} {prompt : Prompt}
    {request : PreparedRequest}
    (h : (session.run asked.source reuse prompt asked.state).1 = .ok request) :
    (session.run asked.source reuse prompt asked.state).2.1 =
        session.afterRun prompt (originUsed asked reuse prompt) ∧
      (originUsed asked reuse prompt).isSome = selects prompt := by
  rw [run] at h ⊢
  cases hrun : Substitution.substitute asked.source reuse prompt.body asked.state with
  | mk result s =>
    rw [hrun] at h
    cases result with
    | error reason => cases h
    | ok done =>
      obtain ⟨between, hchoose⟩ := Substitution.choose_of_substitute hrun
      obtain ⟨hselect, hsome⟩ := choose_eq_ok hchoose
      rw [← hselect]
      exact ⟨rfl, hsome⟩

/-- A run that fails leaves the session alone. -/
theorem run_of_error {session : Session} {source : Source σ} {reuse : Option Origin}
    {prompt : Prompt} {s : σ} {trouble : Trouble}
    (h : (session.run source reuse prompt s).1 = .error trouble) :
    (session.run source reuse prompt s).2.1 = session := by
  rw [run] at h ⊢
  cases hrun : Substitution.substitute source reuse prompt.body s with
  | mk result s =>
    rw [hrun] at h
    cases result with
    | error reason => rfl
    | ok done => cases h

section
variable {session : Session} {demand : Demand} {asked : Asked}

theorem answer_of_prompt? {prompt : Prompt} (h : demand.prompt? session = some prompt) :
    session.answer demand asked =
      session.run asked.source (demand.reuse session) prompt asked.state := by
  cases demand with
  | named name =>
    have hfind : session.find? name = some prompt := h
    rw [answer, prepare, hfind]
    rfl
  | given given =>
    obtain rfl := Option.some.inj h
    rfl
  | again =>
    have hdot : session.dot = some prompt := h
    rw [answer, rerun, hdot]
    rfl

/-- There is nothing to run. -/
theorem answer_of_prompt?_none (h : demand.prompt? session = none) (asked : Asked) :
    ∃ trouble, session.answer demand asked = (.error trouble, session, asked.state) := by
  cases demand with
  | named name =>
    have hfind : session.find? name = none := h
    exact ⟨.promptNotFound name, by rw [answer, prepare, hfind]⟩
  | given given => cases h
  | again =>
    have hdot : session.dot = none := h
    exact ⟨.promptNotFound Prompt.dotName, by rw [answer, rerun, hdot]⟩

/-- **A run that fails changes nothing**: not if it was called off, nor if a source failed,
nor if there was nothing to run. -/
theorem after_run_of_error {trouble : Trouble} (h : (session.answer demand asked).1 = .error trouble) :
    session.after (.run demand asked) = session := by
  rw [after]
  cases hprompt : demand.prompt? session with
  | none =>
    obtain ⟨_, hanswer⟩ := answer_of_prompt?_none hprompt asked
    rw [hanswer]
  | some prompt =>
    rw [answer_of_prompt? hprompt] at h ⊢
    exact run_of_error h

theorem after_run_of_ran?_none (h : session.ran? demand asked = none) :
    session.after (.run demand asked) = session := by
  rw [ran?] at h
  cases hanswer : (session.answer demand asked).1 with
  | error trouble => exact after_run_of_error hanswer
  | ok request =>
    rw [hanswer] at h
    obtain ⟨trouble, herror⟩ := answer_of_prompt?_none (Option.map_eq_none_iff.mp h) asked
    rw [herror] at hanswer
    cases hanswer

theorem ran?_eq_some {ran : Ran} (h : session.ran? demand asked = some ran) :
    ∃ request prompt, (session.answer demand asked).1 = .ok request ∧
      demand.prompt? session = some prompt ∧
      ran = ⟨prompt, originUsed asked (demand.reuse session) prompt⟩ := by
  rw [ran?] at h
  cases hanswer : (session.answer demand asked).1 with
  | error trouble =>
    rw [hanswer] at h
    cases h
  | ok request =>
    rw [hanswer] at h
    obtain ⟨prompt, hprompt, rfl⟩ := Option.map_eq_some_iff.mp h
    exact ⟨request, prompt, rfl, hprompt, rfl⟩

/-- **A run that gives a text is remembered**, with the origin that it used. -/
theorem after_run_of_ran? {ran : Ran} (h : session.ran? demand asked = some ran) :
    session.after (.run demand asked) = session.afterRun ran.prompt ran.origin ∧
      ran.origin.isSome = selects ran.prompt := by
  obtain ⟨request, prompt, hanswer, hprompt, rfl⟩ := ran?_eq_some h
  rw [answer_of_prompt? hprompt] at hanswer
  rw [after, answer_of_prompt? hprompt]
  exact run_of_ok hanswer

end

end Session
end Promptbook
