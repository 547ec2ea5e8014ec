import Promptbook.Substitution.Engine

/-! What a substitution asks for, and what it is told.

A witnessed source writes down every call together with its answer, and changes nothing
else. A run follows a plan (`Follows`) if it gives the same result in the same state
with and without the witness, and makes the planned calls in order: all of them if it
finishes, and otherwise those up to the first one whose answer stops it. Plans are put
together like runs (`Follows.bind`), and each single call follows its own
(`follows_call`). -/
namespace Promptbook.Substitution
open Text

/-! ### Exchanges -/

/-- A call that was made, with its answer. -/
inductive Exchange where
  | input (prompt : String) (answer : Except SourceError (Option String))
  | choose (prompt : String) (origins : List Origin) (answer : Except SourceError (Option Origin))
  | register (name : Char) (answer : Except SourceError String)
  | filetype (answer : Except SourceError String)

namespace Exchange

def request : Exchange → Request
  | .input prompt _ => .input prompt
  | .choose prompt origins _ => .choose prompt origins
  | .register name _ => .register name
  | .filetype _ => .filetype

/-- Why an answer stops a substitution: it failed, called the question off, or was empty. -/
def stop? : Exchange → Option Stop
  | .input _ (.ok (some answer)) => if answer = "" then some .cancelled else none
  | .input _ (.ok none) => some .cancelled
  | .choose _ _ (.ok (some _)) => none
  | .choose _ _ (.ok none) => some .cancelled
  | .register name (.ok value) => if allBlank value.toList then some (.emptyRegister name) else none
  | .filetype (.ok _) => none
  | .input _ (.error error) => some (.source error)
  | .choose _ _ (.error error) => some (.source error)
  | .register _ (.error error) => some (.source error)
  | .filetype (.error error) => some (.source error)

end Exchange

/-- A source that writes down every call with its answer, the earliest first. -/
def Source.witnessed (source : Source σ) : Source (σ × List Exchange) :=
  let noting {α : Type} (exchange : Except SourceError α → Exchange) (call : Call σ α) :
      Call (σ × List Exchange) α :=
    fun (s, log) =>
      let (answer, s) := call s
      (answer, (s, log ++ [exchange answer]))
  { input := fun prompt => noting (.input prompt) (source.input prompt)
    choose := fun prompt origins => noting (.choose prompt origins) (source.choose prompt origins)
    register := fun name => noting (.register name) (source.register name)
    filetype := noting .filetype source.filetype }

/-! ### Plans -/

/-- The calls of a run that finished: all the planned ones, none of which stopped it. -/
structure Completed (plan : List Request) (log : List Exchange) : Prop where
  requests : log.map Exchange.request = plan
  free : ∀ e ∈ log, e.stop? = none

/-- The calls of a run that stopped: the planned ones up to the first that stopped it. -/
structure Halted (plan : List Request) (reason : Stop) (log : List Exchange) : Prop where
  requests : log.map Exchange.request <+: plan
  last : ∃ before e, log = before ++ [e] ∧ (∀ e ∈ before, e.stop? = none) ∧ e.stop? = some reason

theorem Completed.append {plan plan' : List Request} {log log' : List Exchange}
    (h : Completed plan log) (h' : Completed plan' log') :
    Completed (plan ++ plan') (log ++ log') := by
  refine ⟨by rw [List.map_append, h.requests, h'.requests], fun e he => ?_⟩
  rcases List.mem_append.mp he with he | he
  · exact h.free e he
  · exact h'.free e he

theorem Halted.before {plan : List Request} {reason : Stop} {log : List Exchange}
    (h : Halted plan reason log) (plan' : List Request) : Halted (plan ++ plan') reason log :=
  ⟨h.requests.trans (List.prefix_append plan plan'), h.last⟩

theorem Completed.halted {plan plan' : List Request} {reason : Stop} {log log' : List Exchange}
    (h : Completed plan log) (h' : Halted plan' reason log') :
    Halted (plan ++ plan') reason (log ++ log') := by
  obtain ⟨before, e, rfl, hbefore, he⟩ := h'.last
  refine ⟨?_, log ++ before, e, by rw [List.append_assoc], fun d hd => ?_, he⟩
  · rw [List.map_append, h.requests]
    exact (List.prefix_append_right_inj plan).mpr h'.requests
  · rcases List.mem_append.mp hd with hd | hd
    · exact h.free d hd
    · exact hbefore d hd

/-- A run and its witnessed copy that follow a plan; `done` tells what value comes of which
exchanges. -/
def Follows (plan : List Request) (run : Run σ α) (noted : Run (σ × List Exchange) α)
    (done : α → List Exchange → Prop) : Prop :=
  ∀ s log, ∃ new, noted (s, log) = ((run s).1, ((run s).2, log ++ new)) ∧
    match (run s).1 with
    | .ok value => Completed plan new ∧ done value new
    | .error reason => Halted plan reason new

theorem follows_pure {value : α} {done : α → List Exchange → Prop} (h : done value []) :
    Follows [] (pure value : Run σ α) (pure value) done := by
  intro s log
  refine ⟨[], ?_, ⟨rfl, ?_⟩, h⟩
  · simp
  · intro e he
    cases he

/-- **Runs one after another follow plans one after another.** -/
theorem Follows.bind {plan plan' : List Request} {run : Run σ α}
    {noted : Run (σ × List Exchange) α} {done : α → List Exchange → Prop} {next : α → Run σ β}
    {next' : α → Run (σ × List Exchange) β} {done' : β → List Exchange → Prop}
    (h : Follows plan run noted done)
    (hn : ∀ value before, done value before →
      Follows plan' (next value) (next' value) fun value' new => done' value' (before ++ new)) :
    Follows (plan ++ plan') (run >>= next) (noted >>= next') done' := by
  intro s log
  obtain ⟨new, hnoted, hnew⟩ := h s log
  cases hrun : run s with
  | mk result t =>
    rw [hrun] at hnoted hnew
    cases result with
    | error reason =>
      refine ⟨new, ?_, ?_⟩
      · rw [Run.bind_apply, Run.bind_apply, hrun, hnoted]
      · rw [Run.bind_apply, hrun]
        exact hnew.before plan'
    | ok value =>
      obtain ⟨hcompleted, hdone⟩ := hnew
      obtain ⟨more, hnoted', hmore⟩ := hn value new hdone t (log ++ new)
      refine ⟨new ++ more, ?_, ?_⟩
      · rw [Run.bind_apply, Run.bind_apply, hrun, hnoted]
        simpa [List.append_assoc] using hnoted'
      · rw [Run.bind_apply, hrun]
        show match (next value t).1 with
          | .ok value' => Completed (plan ++ plan') (new ++ more) ∧ done' value' (new ++ more)
          | .error reason => Halted (plan ++ plan') reason (new ++ more)
        cases hresult : (next value t).1 with
        | ok value' =>
          rw [hresult] at hmore
          exact ⟨hcompleted.append hmore.1, hmore.2⟩
        | error reason =>
          rw [hresult] at hmore
          exact hcompleted.halted hmore

/-- A run that goes on with a value computed from the one it gave. -/
theorem Follows.map {plan : List Request} {run : Run σ α} {noted : Run (σ × List Exchange) α}
    {done : α → List Exchange → Prop} (f : α → β) {done' : β → List Exchange → Prop}
    (h : Follows plan run noted done) (hf : ∀ value new, done value new → done' (f value) new) :
    Follows plan (run >>= fun value => pure (f value)) (noted >>= fun value => pure (f value))
      done' := by
  have hb := h.bind fun value before hd =>
    show Follows [] (pure (f value)) (pure (f value)) fun value' new => done' value' (before ++ new)
    from follows_pure (by simpa using hf value before hd)
  simpa using hb

/-! ### Single calls -/

/-- A call whose answer is looked at before the run goes on. -/
theorem follows_call {call : Call σ β} {noted : Call (σ × List Exchange) β}
    {exchange : Except SourceError β → Exchange} {request : Request}
    {next : β → Run σ α} {next' : β → Run (σ × List Exchange) α} {done : α → List Exchange → Prop}
    (hnoted : ∀ s log, noted (s, log) = ((call s).1, ((call s).2, log ++ [exchange (call s).1])))
    (hrequest : ∀ answer, (exchange answer).request = request)
    (herror : ∀ error, (exchange (.error error)).stop? = some (.source error))
    (hnext : ∀ answer,
      (∃ reason, next answer = Run.stop reason ∧ next' answer = Run.stop reason ∧
        (exchange (.ok answer)).stop? = some reason) ∨
      (∃ value, next answer = pure value ∧ next' answer = pure value ∧
        (exchange (.ok answer)).stop? = none ∧ done value [exchange (.ok answer)])) :
    Follows [request] (Run.ofCall call >>= next) (Run.ofCall noted >>= next') done := by
  intro s log
  have hplan (answer : Except SourceError β) :
      [exchange answer].map Exchange.request = [request] := by simp [hrequest]
  have hhalted {answer : Except SourceError β} {reason : Stop}
      (h : (exchange answer).stop? = some reason) : Halted [request] reason [exchange answer] :=
    ⟨by simp only [hplan, List.prefix_rfl], [], _, rfl, by simp, h⟩
  refine ⟨[exchange (call s).1], ?_⟩
  simp only [Run.bind_apply, Run.ofCall, hnoted]
  cases hcall : call s with
  | mk answer t =>
    cases answer with
    | error error => exact ⟨rfl, hhalted (herror error)⟩
    | ok answer =>
      rcases hnext answer with ⟨reason, hn, hn', hstop⟩ | ⟨value, hn, hn', hfree, hdone⟩
      · simp only [hn, hn', Run.stop_apply]
        exact ⟨trivial, hhalted hstop⟩
      · simp only [hn, hn', Run.pure_apply]
        exact ⟨trivial, ⟨hplan _, by simpa using hfree⟩, hdone⟩

theorem ask_follows (source : Source σ) (prompt : String) :
    Follows [.input prompt] (ask source prompt) (ask source.witnessed prompt)
      fun answer new => new = [.input prompt (.ok (some answer))] := by
  refine follows_call (fun _ _ => rfl) (fun _ => rfl) (fun _ => rfl) fun answer => ?_
  cases answer with
  | none => exact .inl ⟨.cancelled, rfl, rfl, rfl⟩
  | some answer =>
    by_cases h : answer = ""
    · exact .inl ⟨.cancelled, by simp [h], by simp [h], by simp [Exchange.stop?, h]⟩
    · exact .inr ⟨answer, by simp [h], by simp [h], by simp [Exchange.stop?, h], rfl⟩

theorem readRegister_follows (source : Source σ) (name : Char) :
    Follows [.register name] (readRegister source name) (readRegister source.witnessed name)
      fun value new => new = [.register name (.ok value)] := by
  refine follows_call (fun _ _ => rfl) (fun _ => rfl) (fun _ => rfl) fun value => ?_
  by_cases h : allBlank value.toList = true
  · exact .inl ⟨.emptyRegister name, by simp [h], by simp [h], by simp [Exchange.stop?, h]⟩
  · exact .inr ⟨value, by simp [h], by simp [h], by simp [Exchange.stop?, h], rfl⟩

end Promptbook.Substitution
