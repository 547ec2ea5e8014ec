import Promptbook.Proofs.Substitution.Calls
import Promptbook.Substitution.Scripted

/-! What the texts of answers decide.

A run goes by the class of an answer alone: whether it failed or was called off, whether
it was empty or blank, and which origin was picked (`Alike`). Two runs of one body whose
answers are alike, call by call, make the same calls and end in the same way, whatever
else the answers hold (`calls_of_alike`): the plan that a run follows is read off its
body and its origin, and an answer only tells whether the run goes on with it. -/
namespace Promptbook.Substitution
open Text

deriving instance DecidableEq for Exchange

/-! ### Classes of answers -/

/-- Exchanges in which the same was asked, with answers of one class. -/
inductive Alike : Exchange → Exchange → Prop where
  | choose (prompt : String) (origins : List Origin) (answer : Except SourceError (Option Origin)) :
      Alike (.choose prompt origins answer) (.choose prompt origins answer)
  | typed (prompt : String) {a b : String} (ha : a ≠ "") (hb : b ≠ "") :
      Alike (.input prompt (.ok (some a))) (.input prompt (.ok (some b)))
  | untyped (prompt : String) {a b : Option String} (ha : a = none ∨ a = some "")
      (hb : b = none ∨ b = some "") : Alike (.input prompt (.ok a)) (.input prompt (.ok b))
  | inputFailed (prompt : String) (error : SourceError) :
      Alike (.input prompt (.error error)) (.input prompt (.error error))
  | visible (name : Char) {a b : String} (ha : allBlank a.toList = false)
      (hb : allBlank b.toList = false) : Alike (.register name (.ok a)) (.register name (.ok b))
  | blank (name : Char) {a b : String} (ha : allBlank a.toList = true)
      (hb : allBlank b.toList = true) : Alike (.register name (.ok a)) (.register name (.ok b))
  | registerFailed (name : Char) (error : SourceError) :
      Alike (.register name (.error error)) (.register name (.error error))
  | filetype (a b : String) : Alike (.filetype (.ok a)) (.filetype (.ok b))
  | filetypeFailed (error : SourceError) : Alike (.filetype (.error error)) (.filetype (.error error))

/-- Call by call, as long as the same is asked, the answers are of one class. -/
def AlikeThroughout (log log' : List Exchange) : Prop :=
  ∀ p ∈ log.zip log', p.1.request = p.2.request → Alike p.1 p.2

theorem stop?_untyped (prompt : String) {answer : Option String}
    (h : answer = none ∨ answer = some "") :
    (Exchange.input prompt (.ok answer)).stop? = some .cancelled := by
  rcases h with rfl | rfl <;> rfl

/-- What stops a run is settled by the class of an answer. -/
theorem Alike.stop?_eq {e e' : Exchange} (h : Alike e e') : e.stop? = e'.stop? := by
  cases h with
  | typed prompt ha hb => simp [Exchange.stop?, ha, hb]
  | untyped prompt ha hb => rw [stop?_untyped prompt ha, stop?_untyped prompt hb]
  | visible name ha hb => simp [Exchange.stop?, ha, hb]
  | blank name ha hb => simp [Exchange.stop?, ha, hb]
  | _ => rfl

theorem Alike.picked?_eq {e e' : Exchange} (h : Alike e e') : e.picked? = e'.picked? := by
  cases h <;> rfl

theorem AlikeThroughout.head {e e' : Exchange} {log log' : List Exchange}
    (h : AlikeThroughout (e :: log) (e' :: log')) (hr : e.request = e'.request) : Alike e e' :=
  h (e, e') (by simp) hr

theorem AlikeThroughout.tail {e e' : Exchange} {log log' : List Exchange}
    (h : AlikeThroughout (e :: log) (e' :: log')) : AlikeThroughout log log' :=
  fun p hp => h p (by simp [hp])

/-! ### Runs that follow a plan to their end -/

/-- The calls of a run of which only the plan and the end are known: it finished, or it
stopped for this reason. -/
def Ended (plan : List Request) : Option Stop → List Exchange → Prop
  | none, log => Completed plan log
  | some reason, log => Halted plan reason log

theorem Ended.requests {plan : List Request} {ending : Option Stop} {log : List Exchange}
    (h : Ended plan ending log) : log.map Exchange.request <+: plan := by
  cases ending with
  | none =>
    have hc : Completed plan log := h
    exact hc.requests ▸ List.prefix_rfl
  | some reason =>
    have hh : Halted plan reason log := h
    exact hh.requests

/-- Nothing planned, nothing asked. -/
theorem Ended.of_nil {ending : Option Stop} {log : List Exchange} (h : Ended [] ending log) :
    ending = none ∧ log = [] := by
  have hlog : log = [] := List.map_eq_nil_iff.mp (List.prefix_nil.mp h.requests)
  cases ending with
  | none => exact ⟨rfl, hlog⟩
  | some reason =>
    have hh : Halted [] reason log := h
    obtain ⟨before, e, rfl, -⟩ := hh.last
    simp at hlog

/-- The first planned call is made, and either it ends the run or the rest of the plan is
followed. -/
theorem Ended.of_cons {request : Request} {plan : List Request} {ending : Option Stop}
    {log : List Exchange} (h : Ended (request :: plan) ending log) :
    ∃ e rest, log = e :: rest ∧ e.request = request ∧
      ((∃ reason, ending = some reason ∧ e.stop? = some reason ∧ rest = []) ∨
        e.stop? = none ∧ Ended plan ending rest) := by
  cases ending with
  | none =>
    obtain ⟨hrequests, hfree⟩ := h
    obtain ⟨e, rest, rfl, he, hrest⟩ := List.map_eq_cons_iff.mp hrequests
    refine ⟨e, rest, rfl, he, .inr ⟨hfree e List.mem_cons_self, hrest, fun d hd => ?_⟩⟩
    exact hfree d (List.mem_cons_of_mem _ hd)
  | some reason =>
    obtain ⟨hrequests, before, last, rfl, hbefore, hlast⟩ := h
    cases before with
    | nil =>
      have hrequest := (List.cons_prefix_cons.mp hrequests).1
      exact ⟨last, [], rfl, hrequest, .inl ⟨reason, rfl, hlast, rfl⟩⟩
    | cons e before =>
      obtain ⟨hrequest, hrest⟩ := List.cons_prefix_cons.mp hrequests
      refine ⟨e, before ++ [last], rfl, hrequest, .inr ⟨hbefore e List.mem_cons_self, hrest, ?_⟩⟩
      exact ⟨before, last, rfl, fun d hd => hbefore d (List.mem_cons_of_mem _ hd), hlast⟩

/-- **Runs that follow one plan and are answered alike make the same calls and end in the
same way.** -/
theorem Ended.unique {plan : List Request} {ending ending' : Option Stop}
    {log log' : List Exchange} (h : Ended plan ending log) (h' : Ended plan ending' log')
    (ha : AlikeThroughout log log') :
    log.map Exchange.request = log'.map Exchange.request ∧ ending = ending' := by
  induction plan generalizing log log' with
  | nil =>
    obtain ⟨rfl, rfl⟩ := h.of_nil
    obtain ⟨rfl, rfl⟩ := h'.of_nil
    exact ⟨rfl, rfl⟩
  | cons request plan ih =>
    obtain ⟨e, rest, rfl, he, hend⟩ := h.of_cons
    obtain ⟨e', rest', rfl, he', hend'⟩ := h'.of_cons
    have hstop := (ha.head (he.trans he'.symm)).stop?_eq
    rcases hend with ⟨reason, rfl, hreason, rfl⟩ | ⟨hgo, hrest⟩
    · rcases hend' with ⟨reason', rfl, hreason', rfl⟩ | ⟨hgo', -⟩
      · refine ⟨by simp [he, he'], ?_⟩
        rw [← hreason, ← hreason', hstop]
      · rw [hreason, hgo'] at hstop
        cases hstop
    · rcases hend' with ⟨reason', rfl, hreason', rfl⟩ | ⟨-, hrest'⟩
      · rw [hgo, hreason'] at hstop
        cases hstop
      · obtain ⟨hrequests, hending⟩ := ih hrest hrest' ha.tail
        exact ⟨by simp [he, he', hrequests], hending⟩

/-! ### Substitutions -/

/-- The calls that a substitution makes, each with its answer. -/
def transcript (source : Source σ) (reuse : Option Origin) (body : String) (s : σ) :
    List Exchange :=
  (substitute source.witnessed reuse body (s, [])).2.2

/-- Why a run gave no result, if it gave none. -/
def endingOf : Except Stop α → Option Stop
  | .ok _ => none
  | .error reason => some reason

/-- A substitution follows the plan for its body and its origin to the end. -/
theorem transcript_ended (source : Source σ) (reuse : Option Origin) (body : String) (s : σ) :
    Ended (planned reuse (originIn reuse (transcript source reuse body s) (scan body.toList))
        (scan body.toList))
      (endingOf (substitute source reuse body s).1) (transcript source reuse body s) ∧
      ∀ finished, (substitute source reuse body s).1 = .ok finished →
        finished.select = originIn reuse (transcript source reuse body s) (scan body.toList) := by
  obtain ⟨log, hnoted, choice, rfl, hlog⟩ := substitute_witnessed source reuse body s
  have htranscript : transcript source reuse body s = log := by rw [transcript, hnoted]
  rw [htranscript]
  cases hresult : (substitute source reuse body s).1 with
  | error reason =>
    rw [hresult] at hlog
    refine ⟨hlog, fun finished h => ?_⟩
    cases h
  | ok finished =>
    rw [hresult] at hlog
    obtain ⟨hcompleted, given, hgiven, -⟩ := hlog
    refine ⟨hcompleted, fun finished' h => ?_⟩
    obtain rfl := Except.ok.inj h
    exact hgiven.select

/-- The origin is settled by the first call, or needs none. -/
theorem originIn_of_alike {reuse choice choice' : Option Origin} {parts : List (Part Placeholder)}
    {ending ending' : Option Stop} {log log' : List Exchange}
    (h : Ended (planned reuse choice parts) ending log)
    (h' : Ended (planned reuse choice' parts) ending' log') (ha : AlikeThroughout log log') :
    originIn reuse log parts = originIn reuse log' parts := by
  by_cases hs : parts.any selects = true
  · cases reuse with
    | some origin => simp [originIn, hs]
    | none =>
      rw [planned, if_pos ⟨hs, rfl⟩] at h h'
      obtain ⟨e, rest, rfl, he, hend⟩ := h.of_cons
      obtain ⟨e', rest', rfl, he', hend'⟩ := h'.of_cons
      have hpicked := (ha.head (he.trans he'.symm)).picked?_eq
      have hrest : rest.findSome? Exchange.picked? = none := by
        rcases hend with ⟨-, -, -, rfl⟩ | ⟨-, hrest⟩
        · rfl
        · exact picked?_of_wanted hrest.requests
      have hrest' : rest'.findSome? Exchange.picked? = none := by
        rcases hend' with ⟨-, -, -, rfl⟩ | ⟨-, hrest'⟩
        · rfl
        · exact picked?_of_wanted hrest'.requests
      simp only [originIn, hs, if_true, List.findSome?_cons, hpicked, hrest, hrest']
  · rw [originIn, originIn, if_neg hs, if_neg hs]

/-- **No text that is inserted steers a substitution.** Two runs of a body whose answers
are of one class, call by call, make the same calls and end in the same way: with the
same origin, or for the same reason without a text. -/
theorem calls_of_alike (source : Source σ) (other : Source τ) (reuse : Option Origin)
    (body : String) (s : σ) (t : τ)
    (h : AlikeThroughout (transcript source reuse body s) (transcript other reuse body t)) :
    (transcript source reuse body s).map Exchange.request =
        (transcript other reuse body t).map Exchange.request ∧
      (substitute source reuse body s).1.map Finished.select =
        (substitute other reuse body t).1.map Finished.select := by
  obtain ⟨hended, hselect⟩ := transcript_ended source reuse body s
  obtain ⟨hended', hselect'⟩ := transcript_ended other reuse body t
  have horigin := originIn_of_alike hended hended' h
  rw [horigin] at hended hselect
  obtain ⟨hrequests, hending⟩ := hended.unique hended' h
  refine ⟨hrequests, ?_⟩
  cases hresult : (substitute source reuse body s).1 with
  | error reason =>
    rw [hresult] at hending
    cases hresult' : (substitute other reuse body t).1 with
    | error reason' =>
      rw [hresult'] at hending
      exact congrArg Except.error (Option.some.inj hending)
    | ok finished' =>
      rw [hresult'] at hending
      cases hending
  | ok finished =>
    rw [hresult] at hending
    cases hresult' : (substitute other reuse body t).1 with
    | error reason' =>
      rw [hresult'] at hending
      cases hending
    | ok finished' =>
      exact congrArg Except.ok ((hselect finished hresult).trans (hselect' finished' hresult').symm)

/-- The second script answers with what looks like placeholders, and is asked the same. -/
theorem calls_of_alike_placeholders :
    ∃ log log', transcript Script.source none "$select: $\x7binput:Q\x7d$filetype"
          ⟨[some "x"], none, some .clipboard, [('+', "c")], "rust", [], 0⟩ = log ∧
        transcript Script.source none "$select: $\x7binput:Q\x7d$filetype"
          ⟨[some "$\x7binput:Z\x7d"], none, some .clipboard, [('+', "$input\ue001")],
            "s$select\ue000", [], 0⟩ = log' ∧
        AlikeThroughout log log' ∧ log.map Exchange.request = log'.map Exchange.request := by
  have hplain : transcript Script.source none "$select: $\x7binput:Q\x7d$filetype"
      ⟨[some "x"], none, some .clipboard, [('+', "c")], "rust", [], 0⟩ =
      [.choose "Source: " Origin.all (.ok (some .clipboard)), .input "Q: " (.ok (some "x")),
        .register '+' (.ok "c"), .filetype (.ok "rust")] := by decide +kernel
  have htricky : transcript Script.source none "$select: $\x7binput:Q\x7d$filetype"
      ⟨[some "$\x7binput:Z\x7d"], none, some .clipboard, [('+', "$input\ue001")],
        "s$select\ue000", [], 0⟩ =
      [.choose "Source: " Origin.all (.ok (some .clipboard)),
        .input "Q: " (.ok (some "$\x7binput:Z\x7d")), .register '+' (.ok "$input\ue001"),
        .filetype (.ok "s$select\ue000")] := by decide +kernel
  refine ⟨_, _, rfl, rfl, ?_⟩
  have halike : AlikeThroughout (transcript Script.source none "$select: $\x7binput:Q\x7d$filetype"
      ⟨[some "x"], none, some .clipboard, [('+', "c")], "rust", [], 0⟩)
      (transcript Script.source none "$select: $\x7binput:Q\x7d$filetype"
        ⟨[some "$\x7binput:Z\x7d"], none, some .clipboard, [('+', "$input\ue001")],
          "s$select\ue000", [], 0⟩) := by
    rw [hplain, htricky]
    intro p hp _
    simp only [List.zip_cons_cons, List.zip_nil_right, List.mem_cons, List.not_mem_nil,
      or_false] at hp
    rcases hp with rfl | rfl | rfl | rfl
    · exact .choose _ _ _
    · exact .typed _ (by decide) (by decide)
    · exact .visible _ (by decide +kernel) (by decide +kernel)
    · exact .filetype _ _
  exact ⟨halike, (calls_of_alike _ _ _ _ _ _ halike).1⟩

end Promptbook.Substitution
