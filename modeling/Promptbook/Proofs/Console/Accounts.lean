import Promptbook.Proofs.Console.Lines
import Promptbook.Proofs.Substitution.Replay

/-! What a console reads and writes over many calls.

Every question uses up one line and shows its text, and no other call does either. The console
behind any calls is therefore told by how many of them were questions and what these showed
(`Accounted`), and the answer of each by the line that is next (`Answered`). A substitution
makes calls and nothing else, so the same holds inside of it, and it ends at a question exactly
if the line of that question holds no answer (`Refuses`).

`console_accounts` says this of any calls and substitutions, one after another. -/
namespace Promptbook.Substitution

/-! ### Questions -/

namespace Exchange

/-- Whether a line is read for this call. -/
def isQuestion : Exchange → Bool
  | .input .. | .choose .. => true
  | .register .. | .filetype .. => false

/-- What a console writes for this call. -/
def shown : Exchange → String
  | .input prompt _ => prompt
  | .choose prompt origins _ => Console.menu origins ++ prompt
  | .register .. | .filetype .. => ""

end Exchange

namespace Console
open Text

/-- How many of these calls were questions. -/
def questions (log : List Exchange) : Nat := log.countP Exchange.isQuestion

/-- The line that the first question behind these calls reads, if there is one. -/
def lineAfter (start : Console) (log : List Exchange) : Option (List UInt8) :=
  (octetLines start.unread)[questions log]?

theorem questions_concat_of_question {e : Exchange} (h : e.isQuestion = true)
    (log : List Exchange) : questions (log ++ [e]) = questions log + 1 := by
  simp [questions, h]

theorem questions_concat_of_not_question {e : Exchange} (h : e.isQuestion = false)
    (log : List Exchange) : questions (log ++ [e]) = questions log := by
  simp [questions, h]

/-! ### Calls -/

/-- A console behind these calls: a line is gone for every question, and what each call shows
was written. -/
structure Accounted (start : Console) (log : List Exchange) (console : Console) : Prop where
  unread : console.unread = ((octetLines start.unread).drop (questions log)).flatten
  written : console.written = start.written ++ String.join (log.map Exchange.shown)
  registers : console.registers = start.registers
  filetype : console.filetype = start.filetype

/-- A call with the answer that this line, or what was given beforehand, makes for it. -/
inductive Answered (start : Console) (line : Option (List UInt8)) : Exchange → Prop where
  | input (prompt : String) {heard : Except SourceError (Option String)} (h : Hears line heard) :
      Answered start line (.input prompt heard)
  | choose (prompt : String) (origins : List Origin) {heard : Except SourceError (Option String)}
      (h : Hears line heard) :
      Answered start line (.choose prompt origins
        (heard.map fun said => said.bind fun answer => pick? origins answer.toList))
  | register (name : Char) : Answered start line (.register name (.ok (start.registers.get name)))
  | filetype : Answered start line (.filetype (.ok start.filetype))

section
variable {start console : Console} {log : List Exchange}

theorem accounted_start (start : Console) : Accounted start [] start where
  unread := (cutInLines_octetLines start.unread).whole.symm
  written := (String.append_empty).symm
  registers := rfl
  filetype := rfl

/-- Reading for a question uses up its line. -/
theorem Accounted.readLine (h : Accounted start log console) (shown : String) :
    ∃ heard next, readLine (console.write shown) = (heard, next) ∧
      Hears (lineAfter start log) heard ∧
      ∀ e : Exchange, e.isQuestion = true → e.shown = shown →
        Accounted start (log ++ [e]) next := by
  have hcut : CutInLines ((octetLines start.unread).drop (questions log))
      (console.write shown).unread := by
    rw [write, h.unread]
    exact (cutInLines_octetLines start.unread).drop _
  obtain ⟨heard, next, hread, hheard, hunread, hwritten, hregisters, hfiletype⟩ :=
    readLine_of_cut hcut
  rw [List.head?_drop] at hheard
  refine ⟨heard, next, hread, hheard, fun e he hshown => ?_⟩
  constructor
  · rw [hunread, questions_concat_of_question he, List.tail_drop]
  · rw [hwritten, write, h.written]
    simp [hshown, String.append_assoc]
  · rw [hregisters, write, h.registers]
  · rw [hfiletype, write, h.filetype]

/-- A call that is no question leaves the console as it is. -/
theorem Accounted.quiet (h : Accounted start log console) {e : Exchange}
    (he : e.isQuestion = false) : Accounted start (log ++ [e]) console := by
  have hshown : e.shown = "" := by cases e <;> first | rfl | cases he
  refine ⟨?_, ?_, h.registers, h.filetype⟩
  · rw [questions_concat_of_not_question he, h.unread]
  · simp [h.written, hshown]

/-- **One more call**, with its answer. -/
theorem Accounted.make (h : Accounted start log console) (request : Request) :
    ∃ e next, source.make console request = (e, next) ∧ Accounted start (log ++ [e]) next ∧
      Answered start (lineAfter start log) e ∧ (e.isQuestion = false → next = console) := by
  cases request with
  | input prompt =>
    obtain ⟨heard, next, hread, hheard, hnext⟩ := h.readLine prompt
    refine ⟨.input prompt heard, next, ?_, hnext _ rfl rfl, .input prompt hheard, nofun⟩
    simp [Source.make, source, hread]
  | choose prompt origins =>
    obtain ⟨heard, next, hread, hheard, hnext⟩ := h.readLine (menu origins ++ prompt)
    refine ⟨_, next, ?_, hnext _ rfl rfl, .choose prompt origins hheard, nofun⟩
    rcases heard with error | said | said <;> simp [Source.make, source, hread, Except.map]
  | register name =>
    refine ⟨.register name (.ok (console.registers.get name)), console, rfl, h.quiet rfl, ?_,
      fun _ => rfl⟩
    rw [h.registers]
    exact .register name
  | filetype =>
    refine ⟨.filetype (.ok console.filetype), console, rfl, h.quiet rfl, ?_, fun _ => rfl⟩
    rw [h.filetype]
    exact .filetype

end

/-- **Any calls, one after another.** -/
theorem accounted_makeAll (start : Console) (requests : List Request) :
    Accounted start (source.makeAll start requests).1 (source.makeAll start requests).2 := by
  induction requests using List.reverseRecOn with
  | nil => exact accounted_start start
  | append_singleton requests request ih =>
    obtain ⟨e, next, hmake, hnext, -⟩ := ih.make request
    rw [Source.makeAll_concat, hmake]
    exact hnext

/-! ### Questions that end a substitution -/

/-- Why a substitution goes no further at a question with this line, if it does not: there is
no line, or it is no text, or it is empty, or it picks none of the origins. -/
inductive Refuses : Request → Option (List UInt8) → Stop → Prop where
  | ended (request : Request) : Refuses request none .cancelled
  | garbled (request : Request) {line : List UInt8} {fault : Utf8Fault}
      (h : decodeUtf8 line = .error fault) :
      Refuses request (some line) (.source (.io fault.message))
  | empty (request : Request) {line : List UInt8} (h : Hears (some line) (.ok (some ""))) :
      Refuses request (some line) .cancelled
  | unpicked (prompt : String) (origins : List Origin) {line : List UInt8} {said : String}
      (h : Hears (some line) (.ok (some said))) (hnone : pick? origins said.toList = none) :
      Refuses (.choose prompt origins) (some line) .cancelled

/-- An empty answer picks nothing, as every origin has a label. -/
theorem pick?_empty (origins : List Origin) : pick? origins [] = none := by
  refine List.find?_eq_none.mpr fun origin _ => ?_
  cases origin <;> decide

/-- What was said answers no such question. -/
def Unanswered (said : String) : Request → Prop
  | .choose _ origins => said = "" ∨ pick? origins said.toList = none
  | _ => said = ""

section
variable {request : Request} {line : List UInt8} {reason : Stop}

theorem refuses_none_iff : Refuses request none reason ↔ reason = .cancelled := by
  constructor
  · intro h
    cases h
    rfl
  · rintro rfl
    exact .ended request

theorem refuses_iff_of_fault {fault : Utf8Fault} (hfault : decodeUtf8 line = .error fault) :
    Refuses request (some line) reason ↔ reason = .source (.io fault.message) := by
  have hgarbled : Hears (some line) (.error (.io fault.message)) := .garbled hfault
  constructor
  · intro h
    cases h with
    | garbled _ hfault' => rw [Except.error.inj (hfault'.symm.trans hfault)]
    | empty _ hsaid => cases hgarbled.unique hsaid
    | unpicked _ _ hsaid => cases hgarbled.unique hsaid
  · rintro rfl
    exact .garbled request hfault

theorem refuses_iff_of_said {said : String} (hsaid : Hears (some line) (.ok (some said))) :
    Refuses request (some line) reason ↔ reason = .cancelled ∧ Unanswered said request := by
  constructor
  · intro h
    cases h with
    | garbled _ hfault => cases hsaid.unique (.garbled hfault)
    | empty _ hempty =>
      cases hsaid.unique hempty
      exact ⟨rfl, by cases request <;> simp [Unanswered]⟩
    | unpicked _ _ hother hnone =>
      cases hsaid.unique hother
      exact ⟨rfl, .inr hnone⟩
  · rintro ⟨rfl, hunanswered⟩
    cases request with
    | choose prompt origins =>
      rcases hunanswered with rfl | hnone
      · exact .empty _ hsaid
      · exact .unpicked prompt origins hsaid hnone
    | input | register | filetype =>
      obtain rfl : said = "" := hunanswered
      exact .empty _ hsaid

end

/-- A question stops a substitution exactly if its line holds no answer. -/
theorem Answered.stop?_iff {start : Console} {line : Option (List UInt8)} {e : Exchange}
    (h : Answered start line e) (he : e.isQuestion = true) (reason : Stop) :
    e.stop? = some reason ↔ Refuses e.request line reason := by
  cases h with
  | input prompt h =>
    cases h with
    | ended => simp [Exchange.stop?, refuses_none_iff, eq_comm]
    | garbled hfault => simp [Exchange.stop?, refuses_iff_of_fault hfault, eq_comm]
    | said htext hbreaks hanswer =>
      rw [refuses_iff_of_said (.said htext hbreaks hanswer)]
      simp [Exchange.stop?, Exchange.request, Unanswered, and_comm, @eq_comm _ reason]
  | choose prompt origins h =>
    cases h with
    | ended => simp [Exchange.stop?, Except.map, refuses_none_iff, eq_comm]
    | garbled hfault => simp [Exchange.stop?, Except.map, refuses_iff_of_fault hfault, eq_comm]
    | @said _ answer _ htext hbreaks hanswer =>
      rw [refuses_iff_of_said (.said htext hbreaks hanswer)]
      simp only [Except.map, Option.bind_some, Exchange.request, Unanswered, String.toList_ofList]
      cases hpick : pick? origins answer with
      | none => simp [Exchange.stop?, @eq_comm _ reason]
      | some origin =>
        -- an empty answer would have picked nothing
        have hne : String.ofList answer ≠ "" := by
          rintro hempty
          rw [← String.toList_ofList (l := answer), hempty] at hpick
          simp [pick?_empty] at hpick
        simp [Exchange.stop?, hne]
  | register | filetype => cases he

/-! ### Whatever is done at a console -/

/-- A call among those that were made at a console: it was made behind the ones before it, and
answered by the line that was next. -/
theorem call_of_record {start : Console} {uses : List Use} {before after : List Exchange}
    {e : Exchange} (h : record source start uses = before ++ e :: after) :
    ∃ between next, source.makeAll start (before.map Exchange.request) = (before, between) ∧
      source.make between e.request = (e, next) ∧
      Accounted start before between ∧ Accounted start (before ++ [e]) next ∧
      Answered start (lineAfter start before) e ∧ (e.isQuestion = false → next = between) := by
  have hall := makeAll_record source start uses
  rw [h] at hall
  obtain ⟨between, next, hbetween, hmake⟩ := Source.makeAll_split hall
  have hbefore : Accounted start before between := by
    have haccounted := accounted_makeAll start (before.map Exchange.request)
    rwa [hbetween] at haccounted
  obtain ⟨e', next', hmake', hafter, hanswered, hquiet⟩ := hbefore.make e.request
  obtain ⟨rfl, rfl⟩ := Prod.mk.inj (hmake.symm.trans hmake')
  exact ⟨between, next, hbetween, hmake, hbefore, hafter, hanswered, hquiet⟩

/-- **What a console reads and writes**, over any calls and substitutions, one after another:
each call is made behind those before it, a question takes the line that is next and writes its
text, and the other calls do neither. A substitution ends at a question exactly if the line of
the question holds no answer. -/
theorem console_accounts (start : Console) (uses : List Use) :
    CutInLines (octetLines start.unread) start.unread ∧
    Accounted start (record source start uses) (useAll source start uses) ∧
    (∀ before e after, record source start uses = before ++ e :: after →
      ∃ between next, source.makeAll start (before.map Exchange.request) = (before, between) ∧
        source.make between e.request = (e, next) ∧
        Accounted start before between ∧ Accounted start (before ++ [e]) next ∧
        Answered start (lineAfter start before) e ∧ (e.isQuestion = false → next = between)) ∧
    ∀ earlier reuse body later, uses = earlier ++ .substitution reuse body :: later →
      record source start earlier ++ transcript source reuse body (useAll source start earlier) <+:
        record source start uses ∧
      ∀ before e after reason,
        transcript source reuse body (useAll source start earlier) = before ++ e :: after →
        e.isQuestion = true →
        (after = [] ∧
            (substitute source reuse body (useAll source start earlier)).1 = .error reason ↔
          Refuses e.request (lineAfter start (record source start earlier ++ before)) reason) := by
  refine ⟨cutInLines_octetLines _, ?_, fun _ _ _ => call_of_record, ?_⟩
  · have haccounted := accounted_makeAll start ((record source start uses).map Exchange.request)
    rwa [makeAll_record] at haccounted
  · rintro earlier reuse body later rfl
    have hpre := record_prefix source start (earlier ++ [.substitution reuse body]) later
    rw [record_concat_substitution, List.append_assoc, List.singleton_append] at hpre
    refine ⟨hpre, fun before e after reason htranscript he => ?_⟩
    obtain ⟨rest, hrest⟩ := hpre
    have hcall : record source start (earlier ++ .substitution reuse body :: later) =
        (record source start earlier ++ before) ++ e :: (after ++ rest) := by
      rw [← hrest, htranscript]
      simp
    obtain ⟨-, -, -, -, -, -, hanswered, -⟩ := call_of_record hcall
    rw [← stop?_iff_of_transcript htranscript reason, hanswered.stop?_iff he]

end Console
end Promptbook.Substitution
