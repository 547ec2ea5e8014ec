import Mathlib.Data.List.Induction
import Promptbook.Proofs.Substitution.Mirrors
import Promptbook.Proofs.Substitution.Steering

/-! A source is touched by its calls alone.

Whatever is done at a source, single calls or whole substitutions, the calls that a witness
writes down are all that happens to it: made again one after another, they get the same
answers and lead to the same state (`replays_useAll`). What is shown of every list of calls
therefore holds inside every substitution. -/
namespace Promptbook.Substitution

/-! ### Calls one after another -/

namespace Source

/-- Makes a call, and tells it with its answer. -/
def make (source : Source σ) (s : σ) : Request → Exchange × σ
  | .input prompt => let (answer, s) := source.input prompt s; (.input prompt answer, s)
  | .choose prompt origins =>
    let (answer, s) := source.choose prompt origins s; (.choose prompt origins answer, s)
  | .register name => let (answer, s) := source.register name s; (.register name answer, s)
  | .filetype => let (answer, s) := source.filetype s; (.filetype answer, s)

/-- Makes calls one after another, each in the state that the one before it left. -/
def makeAll (source : Source σ) (s : σ) : List Request → List Exchange × σ
  | [] => ([], s)
  | request :: rest =>
    let (e, s) := source.make s request
    let (log, s) := source.makeAll s rest
    (e :: log, s)

theorem makeAll_append (source : Source σ) (s : σ) (a b : List Request) :
    source.makeAll s (a ++ b) =
      ((source.makeAll s a).1 ++ (source.makeAll (source.makeAll s a).2 b).1,
        (source.makeAll (source.makeAll s a).2 b).2) := by
  induction a generalizing s with
  | nil => rfl
  | cons request rest ih => simp only [List.cons_append, makeAll, ih]

/-- One more call is made in the state that the others left. -/
theorem makeAll_concat (source : Source σ) (s : σ) (requests : List Request) (request : Request) :
    source.makeAll s (requests ++ [request]) =
      ((source.makeAll s requests).1 ++ [(source.make (source.makeAll s requests).2 request).1],
        (source.make (source.makeAll s requests).2 request).2) := by
  rw [makeAll_append]
  rfl

theorem length_makeAll (source : Source σ) (s : σ) (requests : List Request) :
    (source.makeAll s requests).1.length = requests.length := by
  induction requests generalizing s with
  | nil => rfl
  | cons request rest ih => exact congrArg (· + 1) (ih (source.make s request).2)

/-- Calls up to one of them, and that one, are made on their own as they are among the others. -/
theorem makeAll_split {source : Source σ} {s finish : σ} {before after : List Exchange}
    {e : Exchange} (h : source.makeAll s ((before ++ e :: after).map Exchange.request) =
      (before ++ e :: after, finish)) :
    ∃ between next, source.makeAll s (before.map Exchange.request) = (before, between) ∧
      source.make between e.request = (e, next) := by
  rw [List.map_append, makeAll_append, List.map_cons] at h
  have hlog := congrArg Prod.fst h
  obtain ⟨hbefore, hafter⟩ := List.append_inj hlog (by simp [length_makeAll])
  exact ⟨_, _, Prod.ext hbefore rfl, Prod.ext (List.cons.inj hafter).1 rfl⟩

theorem request_make (source : Source σ) (s : σ) (request : Request) :
    (source.make s request).1.request = request := by
  cases request <;> rfl

end Source

/-! ### Substitutions -/

section
variable {rel : σ → τ → Prop} {source : Source σ} {other : Source τ}

/-- A substitution goes as its source is mirrored, choices included. -/
theorem Mirrors.substitute (h : Mirrors rel source other)
    (hchoose : ∀ prompt origins,
      Agree rel (source.choose prompt origins) (other.choose prompt origins))
    (reuse : Option Origin) (body : String) :
    Agree rel (substitute source reuse body) (substitute other reuse body) := by
  rw [substitute_eq_afterChoice, substitute_eq_afterChoice]
  refine Agree.bind ?_ fun choice => h.afterChoice body choice
  by_cases hsettled : occurs select? body.toList = true → reuse.isSome = true
  · rw [choose_of_settled source hsettled, choose_of_settled other hsettled]
    exact agree_pure _
  · obtain ⟨hs, hreuse⟩ := Classical.not_imp.mp hsettled
    obtain rfl : reuse = none := by simpa using hreuse
    simp only [choose, hs, if_true]
    refine (hchoose selectPrompt Origin.all).ofCall.bind fun picked => ?_
    cases picked with
    | none => exact agree_stop .cancelled
    | some origin => exact agree_pure (some origin)

end

/-- A record from `start` that holds all that happened to a source in this state. -/
def Replays (source : Source σ) (start : σ) (s : σ) (noted : σ × List Exchange) : Prop :=
  noted.1 = s ∧ source.makeAll start (noted.2.map Exchange.request) = (noted.2, s)

section
variable {source : Source σ} {start : σ}

/-- A call that is written down is one more to make again. -/
theorem Replays.make {s : σ} {noted : σ × List Exchange} (h : Replays source start s noted)
    (request : Request) :
    Replays source start (source.make s request).2
      ((source.make s request).2, noted.2 ++ [(source.make s request).1]) := by
  refine ⟨rfl, ?_⟩
  rw [List.map_append, List.map_singleton, source.request_make, source.makeAll_concat, h.2]

theorem mirrors_witnessed (source : Source σ) (start : σ) :
    Mirrors (Replays source start) source source.witnessed where
  input prompt := by
    rintro s ⟨_, log⟩ h
    obtain rfl := h.1
    exact ⟨rfl, h.make (.input prompt)⟩
  register name := by
    rintro s ⟨_, log⟩ h
    obtain rfl := h.1
    exact ⟨rfl, h.make (.register name)⟩
  filetype := by
    rintro s ⟨_, log⟩ h
    obtain rfl := h.1
    exact ⟨rfl, h.make .filetype⟩

theorem choose_witnessed (source : Source σ) (start : σ) (prompt : String) (origins : List Origin) :
    Agree (Replays source start) (source.choose prompt origins)
      (source.witnessed.choose prompt origins) := by
  rintro s ⟨_, log⟩ h
  obtain rfl := h.1
  exact ⟨rfl, h.make (.choose prompt origins)⟩

/-- **A substitution does nothing to its source but make its calls.** -/
theorem Replays.substitute {s : σ} {noted : σ × List Exchange} (h : Replays source start s noted)
    (reuse : Option Origin) (body : String) :
    Replays source start (substitute source reuse body s).2
      (substitute source.witnessed reuse body noted).2 :=
  ((mirrors_witnessed source start).substitute (choose_witnessed source start) reuse body
    s noted h).2

end

/-! ### Longer records -/

/-- The second record has these calls before those of the first. -/
def Longer (before : List Exchange) (noted longer : σ × List Exchange) : Prop :=
  longer = (noted.1, before ++ noted.2)

theorem mirrors_longer (source : Source σ) (before : List Exchange) :
    Mirrors (Longer before) source.witnessed source.witnessed where
  input prompt := by
    rintro ⟨s, log⟩ _ rfl
    exact ⟨rfl, Prod.ext rfl (List.append_assoc ..)⟩
  register name := by
    rintro ⟨s, log⟩ _ rfl
    exact ⟨rfl, Prod.ext rfl (List.append_assoc ..)⟩
  filetype := by
    rintro ⟨s, log⟩ _ rfl
    exact ⟨rfl, Prod.ext rfl (List.append_assoc ..)⟩

theorem choose_longer (source : Source σ) (before : List Exchange) (prompt : String)
    (origins : List Origin) :
    Agree (Longer before) (source.witnessed.choose prompt origins)
      (source.witnessed.choose prompt origins) := by
  rintro ⟨s, log⟩ _ rfl
  exact ⟨rfl, Prod.ext rfl (List.append_assoc ..)⟩

/-- A substitution adds its calls behind those that are written down already. -/
theorem substitute_witnessed_longer (source : Source σ) (reuse : Option Origin) (body : String)
    (s : σ) (before : List Exchange) :
    (substitute source.witnessed reuse body (s, before)).2 =
      ((substitute source reuse body s).2, before ++ transcript source reuse body s) := by
  obtain ⟨-, hlonger⟩ := (mirrors_longer source before).substitute (choose_longer source before)
    reuse body (s, []) (s, before) (Prod.ext rfl (List.append_nil before).symm)
  have hstart : Replays source s s (s, []) := ⟨rfl, rfl⟩
  rw [hlonger, (hstart.substitute reuse body).1, transcript]

/-! ### Whatever is done at a source -/

/-- What can be done at a source. -/
inductive Use where
  | call (request : Request)
  | substitution (reuse : Option Origin) (body : String)

/-- The source behind a use of it. -/
def Use.after (source : Source σ) (s : σ) : Use → σ
  | .call request => (source.make s request).2
  | .substitution reuse body => (substitute source reuse body s).2

/-- The source behind these uses of it, one after another. -/
def useAll (source : Source σ) (s : σ) (uses : List Use) : σ := uses.foldl (Use.after source) s

/-- All calls that are made in the course of these uses, each with its answer. -/
def record (source : Source σ) (start : σ) (uses : List Use) : List Exchange :=
  (useAll source.witnessed (start, []) uses).2

section
variable {source : Source σ} {start : σ}

theorem useAll_concat (source : Source σ) (start : σ) (uses : List Use) (use : Use) :
    useAll source start (uses ++ [use]) = use.after source (useAll source start uses) := by
  rw [useAll, useAll, List.foldl_append]
  rfl

theorem make_witnessed (source : Source σ) (s : σ) (log : List Exchange) (request : Request) :
    source.witnessed.make (s, log) request =
      ((source.make s request).1,
        (source.make s request).2, log ++ [(source.make s request).1]) := by
  cases request <;> rfl

theorem Replays.after {s : σ} {noted : σ × List Exchange} (h : Replays source start s noted)
    (use : Use) : Replays source start (use.after source s) (use.after source.witnessed noted) := by
  cases use with
  | call request =>
    obtain ⟨_, log⟩ := noted
    obtain rfl := h.1
    rw [Use.after, Use.after, make_witnessed]
    exact h.make request
  | substitution reuse body => exact h.substitute reuse body

/-- **The calls that are written down are all that happens to a source.** -/
theorem replays_useAll (source : Source σ) (start : σ) (uses : List Use) :
    Replays source start (useAll source start uses)
      (useAll source.witnessed (start, []) uses) := by
  induction uses using List.reverseRecOn with
  | nil => exact ⟨rfl, rfl⟩
  | append_singleton uses use ih =>
    rw [useAll_concat, useAll_concat]
    exact ih.after use

theorem useAll_witnessed (source : Source σ) (start : σ) (uses : List Use) :
    useAll source.witnessed (start, []) uses =
      (useAll source start uses, record source start uses) :=
  Prod.ext (replays_useAll source start uses).1 rfl

theorem makeAll_record (source : Source σ) (start : σ) (uses : List Use) :
    source.makeAll start ((record source start uses).map Exchange.request) =
      (record source start uses, useAll source start uses) :=
  (replays_useAll source start uses).2

theorem record_concat_call (source : Source σ) (start : σ) (uses : List Use) (request : Request) :
    record source start (uses ++ [.call request]) =
      record source start uses ++ [(source.make (useAll source start uses) request).1] := by
  rw [record, useAll_concat, useAll_witnessed, Use.after, make_witnessed]

theorem record_concat_substitution (source : Source σ) (start : σ) (uses : List Use)
    (reuse : Option Origin) (body : String) :
    record source start (uses ++ [.substitution reuse body]) =
      record source start uses ++ transcript source reuse body (useAll source start uses) := by
  rw [record, useAll_concat, useAll_witnessed, Use.after, substitute_witnessed_longer]

theorem record_prefix_concat (source : Source σ) (start : σ) (uses : List Use) (use : Use) :
    record source start uses <+: record source start (uses ++ [use]) := by
  cases use with
  | call request =>
    rw [record_concat_call]
    exact List.prefix_append ..
  | substitution reuse body =>
    rw [record_concat_substitution]
    exact List.prefix_append ..

/-- What is done later is written down behind what was done before. -/
theorem record_prefix (source : Source σ) (start : σ) (uses more : List Use) :
    record source start uses <+: record source start (uses ++ more) := by
  induction more using List.reverseRecOn with
  | nil => exact (List.append_nil uses).symm ▸ List.prefix_rfl
  | append_singleton more use ih =>
    rw [← List.append_assoc]
    exact ih.trans (record_prefix_concat source start (uses ++ more) use)

end

/-! ### Calls that stop a substitution -/

/-- The last call of a run is the one that stopped it, if it was stopped, and no other is. -/
theorem Ended.stop?_iff {plan : List Request} {ending : Option Stop} {before after : List Exchange}
    {e : Exchange} (h : Ended plan ending (before ++ e :: after)) (reason : Stop) :
    e.stop? = some reason ↔ after = [] ∧ ending = some reason := by
  cases ending with
  | none =>
    have hc : Completed plan (before ++ e :: after) := h
    rw [hc.free e (by simp)]
    simp
  | some stopped =>
    have hh : Halted plan stopped (before ++ e :: after) := h
    obtain ⟨before', last, hlog, hfree, hlast⟩ := hh.last
    rcases List.eq_nil_or_concat after with rfl | ⟨init, d, rfl⟩
    · obtain ⟨-, he⟩ := List.append_inj' hlog rfl
      obtain rfl : e = last := by simpa using he
      rw [hlast]
      simp
    · -- a call with others behind it is one of those that let the run go on
      have hsplit : (before ++ e :: init) ++ [d] = before' ++ [last] := by simpa using hlog
      obtain ⟨hbefore, -⟩ := List.append_inj' hsplit rfl
      rw [hfree e (hbefore ▸ by simp)]
      simp

/-- **A call stops a substitution exactly if it is the last one and says why there is no text.** -/
theorem stop?_iff_of_transcript {source : Source σ} {reuse : Option Origin} {body : String} {s : σ}
    {before after : List Exchange} {e : Exchange}
    (h : transcript source reuse body s = before ++ e :: after) (reason : Stop) :
    e.stop? = some reason ↔ after = [] ∧ (substitute source reuse body s).1 = .error reason := by
  have hended := (transcript_ended source reuse body s).1
  rw [h] at hended
  rw [hended.stop?_iff reason]
  cases (substitute source reuse body s).1 <;> simp [endingOf]

end Promptbook.Substitution
