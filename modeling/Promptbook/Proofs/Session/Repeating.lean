import Promptbook.Proofs.Session.History
import Promptbook.Proofs.Substitution.Mirrors

/-! Running the last prompt again.

A run under the name `.` asks for an origin when its body has a `$select`; repeating the last
run does not, because the session knows the origin. The two runs of a body with its origin
settled differ in that one call (`substitute_recorded`), and in every session that a history
leads to, the origin that is known is the one that the last run used
(`lastSelect_of_last`). So repeating is running `.` over a source that would pick the same
origin, without being asked (`rerun_afterAll`). -/
namespace Promptbook

namespace Substitution

/-- A source that answers every choice with this origin, and is otherwise as it was. -/
def Source.choosing (source : Source σ) (origin : Option Origin) : Source σ :=
  { source with choose := fun _ _ s => (.ok origin, s) }

/-! ### Records of calls -/

/-- A record that goes on the same way behind these calls. -/
def Behind (first : List Request) (a b : σ × List Request) : Prop :=
  b = (a.1, first ++ a.2)

theorem mirrors_choosing (source : Source σ) (origin : Option Origin) (first : List Request) :
    Mirrors (Behind first) source.recorded (source.choosing origin).recorded where
  input prompt := by
    rintro ⟨s, calls⟩ _ rfl
    exact ⟨rfl, by simp [Behind, Source.recorded, Source.choosing]⟩
  register name := by
    rintro ⟨s, calls⟩ _ rfl
    exact ⟨rfl, by simp [Behind, Source.recorded, Source.choosing]⟩
  filetype := by
    rintro ⟨s, calls⟩ _ rfl
    exact ⟨rfl, by simp [Behind, Source.recorded, Source.choosing]⟩

/-- A record without a choice, kept by a source in this state. -/
def Unchosen (a : σ × List Request) (s : σ) : Prop :=
  a.1 = s ∧ ∀ prompt origins, .choose prompt origins ∉ a.2

theorem mirrors_recorded (source : Source σ) : Mirrors Unchosen source.recorded source where
  input prompt := by
    rintro ⟨s, calls⟩ _ ⟨rfl, hcalls⟩
    exact ⟨rfl, rfl, by simpa [Source.recorded] using hcalls⟩
  register name := by
    rintro ⟨s, calls⟩ _ ⟨rfl, hcalls⟩
    exact ⟨rfl, rfl, by simpa [Source.recorded] using hcalls⟩
  filetype := by
    rintro ⟨s, calls⟩ _ ⟨rfl, hcalls⟩
    exact ⟨rfl, rfl, by simpa [Source.recorded] using hcalls⟩

/-- The call that settles on an origin, where a body needs one. -/
def choiceCall (body : String) : List Request :=
  if occurs select? body.toList = true then [.choose selectPrompt Origin.all] else []

theorem substitute_choosing (source : Source σ) {origin : Option Origin} {body : String}
    (h : occurs select? body.toList = true → origin.isSome = true) (s : σ) :
    substitute (source.choosing origin).recorded none body (s, []) =
      afterChoice (source.choosing origin).recorded body
        (if occurs select? body.toList = true then origin else none) (s, choiceCall body) := by
  rw [substitute_eq_afterChoice, Run.bind_apply, choiceCall]
  by_cases hs : occurs select? body.toList = true
  · obtain ⟨picked, rfl⟩ := Option.isSome_iff_exists.mp (h hs)
    have hchoose : choose (source.choosing (some picked)).recorded none body.toList (s, []) =
        (.ok (some picked), s, [.choose selectPrompt Origin.all]) := by
      simp only [choose, if_pos hs, Run.bind_apply]
      rfl
    rw [hchoose, if_pos hs, if_pos hs]
  · have hchoose : choose (source.choosing origin).recorded none body.toList = pure none := if_neg hs
    rw [hchoose, if_neg hs, if_neg hs]
    rfl

/-- Behind the choice, all three sources are asked and answered the same. -/
theorem afterChoice_recorded (source : Source σ) (origin : Option Origin) (first : List Request)
    (body : String) (choice : Option Origin) (s : σ) :
    ∃ result s' calls, afterChoice source body choice s = (result, s') ∧
      afterChoice source.recorded body choice (s, []) = (result, s', calls) ∧
      (∀ prompt origins, .choose prompt origins ∉ calls) ∧
      afterChoice (source.choosing origin).recorded body choice (s, first) =
        (result, s', first ++ calls) := by
  have hrecorded := (mirrors_recorded source).afterChoice body choice (s, []) s ⟨rfl, by simp⟩
  have hchoosing := (mirrors_choosing source origin first).afterChoice body choice (s, []) (s, first)
    (by simp [Behind])
  cases hplain : afterChoice source body choice s with
  | mk result s' =>
    cases hrec : afterChoice source.recorded body choice (s, []) with
    | mk result' between =>
      obtain ⟨t, calls⟩ := between
      rw [hplain, hrec] at hrecorded
      rw [hrec] at hchoosing
      obtain ⟨rfl, rfl, hcalls⟩ := hrecorded
      obtain ⟨hresult, hstate⟩ := hchoosing
      exact ⟨_, _, _, rfl, rfl, hcalls, Prod.ext hresult.symm hstate⟩

/-- **With its origin settled a body asks for no origin**, and is otherwise asked and answered
as with a source that picks that origin. -/
theorem substitute_recorded (source : Source σ) {reuse origin : Option Origin} (body : String)
    (h : occurs select? body.toList = true → reuse = origin ∧ origin.isSome = true) (s : σ) :
    ∃ result s' calls, substitute source reuse body s = (result, s') ∧
      substitute source.recorded reuse body (s, []) = (result, s', calls) ∧
      (∀ prompt origins, .choose prompt origins ∉ calls) ∧
      substitute (source.choosing origin).recorded none body (s, []) =
        (result, s', choiceCall body ++ calls) := by
  have hreuse : occurs select? body.toList = true → reuse.isSome = true := by
    intro hs
    rw [(h hs).1]
    exact (h hs).2
  have hsame : (if occurs select? body.toList = true then origin else none) =
      if occurs select? body.toList = true then reuse else none := by
    split
    · next hs => exact (h hs).1.symm
    · rfl
  rw [substitute_of_settled source hreuse, substitute_of_settled source.recorded hreuse,
    substitute_choosing source fun hs => (h hs).2, hsame]
  exact afterChoice_recorded source origin (choiceCall body) body _ s

end Substitution

namespace Session
open Substitution (Origin Source Stop Finished)

/-! ### Runs -/

/-- What a run makes of its substitution. -/
def concluded (session : Session) (prompt : Prompt) :
    Except Stop Finished → Except Trouble PreparedRequest × Session
  | .ok done => (.ok (session.request prompt done.text), session.afterRun prompt done.select)
  | .error stop => (.error (.stopped stop), session)

theorem run_of_substitute {session : Session} {source : Source σ} {reuse : Option Origin}
    {prompt : Prompt} {s s' : σ} {result : Except Stop Finished}
    (h : Substitution.substitute source reuse prompt.body s = (result, s')) :
    session.run source reuse prompt s =
      ((session.concluded prompt result).1, (session.concluded prompt result).2, s') := by
  rw [run, h]
  cases result <;> rfl

/-- The prompt that ran last is the dot prompt, and the origin that is known is the one that
it used, if it used one. -/
theorem Remembers.lastSelect_of_last {start : Collection} {published : List Collection}
    {models : List (Option String)} {ran : List Ran} {session : Session}
    (h : Remembers start published models ran session) {last : Ran} (hl : ran.getLast? = some last) :
    session.dot = some last.prompt.asDot ∧
      (selects last.prompt = true →
        session.lastSelect = last.origin ∧ last.origin.isSome = true) := by
  constructor
  · rw [h.dot, hl]
    rfl
  · intro hs
    obtain ⟨before, rfl⟩ := List.getLast?_eq_some_iff.mp hl
    refine ⟨?_, (h.origin last (by simp)).trans hs⟩
    rw [h.lastSelect]
    simp [List.filter_append, hs]

theorem rerun_of_dot_none {session : Session} (h : session.dot = none) (source : Source σ) (s : σ) :
    session.rerun source s = (.error (.promptNotFound Prompt.dotName), session, s) := by
  rw [rerun, h]

/-- **Repeating runs `.` again without asking for an origin.** In every session that a history
leads to, a repetition makes no choice; it has nothing to run if and only if no run has given
a text yet, and then asks nothing and changes nothing; and else it gives what running `.`
over a source that picks the origin of the last run gives, with the same calls but for the
choice. -/
theorem rerun_afterAll (start : Collection) (steps : List Step) (source : Source σ) (s : σ) :
    ∃ result next s' calls,
      ((opened start).afterAll steps).rerun source s = (result, next, s') ∧
      ((opened start).afterAll steps).rerun source.recorded (s, []) = (result, next, s', calls) ∧
      (∀ prompt origins, .choose prompt origins ∉ calls) ∧
      (result = .error (.promptNotFound ".") ↔ (opened start).runs steps = []) ∧
      ((opened start).runs steps = [] →
        next = (opened start).afterAll steps ∧ s' = s ∧ calls = []) ∧
      ∀ last, ((opened start).runs steps).getLast? = some last →
        ((opened start).afterAll steps).prepare (source.choosing last.origin).recorded "." (s, []) =
          (result, next, s', (if selects last.prompt = true
            then [.choose Substitution.selectPrompt Origin.all] else []) ++ calls) := by
  have h := (remembers_opened start).steps steps
  simp only [List.nil_append] at h
  generalize (opened start).afterAll steps = session at h ⊢
  cases hlast : ((opened start).runs steps).getLast? with
  | none =>
    have hruns : (opened start).runs steps = [] := List.getLast?_eq_none_iff.mp hlast
    have hdot : session.dot = none := by rw [h.dot, hlast]; rfl
    refine ⟨_, _, _, _, rerun_of_dot_none hdot source s, rerun_of_dot_none hdot _ (s, []),
      by simp, ⟨fun _ => hruns, fun _ => rfl⟩, fun _ => ⟨rfl, rfl, rfl⟩, ?_⟩
    intro last hl
    cases hl
  | some last =>
    have hruns : (opened start).runs steps ≠ [] := by
      intro hnil
      rw [hnil] at hlast
      cases hlast
    obtain ⟨hdot, hknown⟩ := h.lastSelect_of_last hlast
    obtain ⟨result, s', calls, hplain, hrecorded, hcalls, hchoosing⟩ :=
      Substitution.substitute_recorded source last.prompt.asDot.body hknown s
    refine ⟨(session.concluded last.prompt.asDot result).1,
      (session.concluded last.prompt.asDot result).2, s', calls, ?_, ?_, hcalls, ?_, ?_, ?_⟩
    · rw [rerun, hdot]
      exact run_of_substitute hplain
    · rw [rerun, hdot]
      exact run_of_substitute hrecorded
    · refine ⟨fun hresult => ?_, fun hnil => absurd hnil hruns⟩
      cases result <;> cases hresult
    · exact fun hnil => absurd hnil hruns
    · intro last' hl
      obtain rfl := Option.some.inj hl
      have hfind : session.find? "." = some last.prompt.asDot := hdot
      rw [prepare, hfind]
      exact run_of_substitute hchoosing

end Session
end Promptbook
