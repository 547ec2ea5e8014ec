import Promptbook.Proofs.Loading.Spread
import Promptbook.Proofs.Session.History
import Promptbook.Proofs.Template.RoundTrip
import Promptbook.Substitution.Scripted

/-! What was checked when it was read stays so.

Reading gives well formed prompts only. Loading notes where they came from and merges them,
and neither makes a prompt of its own (`wellFormed_of_load`). A session over loaded prompts
runs no others: its dot prompt has the pattern and the options of the prompt that ran, and
every step keeps this (`Sound.after`). So no request carries a pattern that is refused or an
option under a reserved key. -/
namespace Promptbook

namespace Loader
open Template (Rules WellFormed)

/-! ### Loading -/

theorem wellFormed_with_source {rules : Rules} {prompt : Prompt} (h : WellFormed rules prompt)
    (source : Option Path) : WellFormed rules { prompt with sourceFile := source } :=
  ⟨h.named, h.name, h.model, h.extract, h.options, h.body⟩

theorem wellFormed_of_loadFile {files : FileView} {rules : Rules} {path : Path}
    {prompts : Collection} (h : loadFile files rules path = .ok prompts) :
    ∀ p ∈ prompts, WellFormed rules p := by
  obtain ⟨text, parsed, -, hparse, rfl⟩ := loadFile_eq_ok h
  intro p hp
  obtain ⟨q, hq, rfl⟩ := List.mem_map.mp hp
  exact wellFormed_with_source (Template.wellFormed_of_parse hparse q hq).1 _

section
variable {files : FileView} {config : Config}

theorem wellFormed_of_outcome {rules : Rules} {visit : Visit} {prompts : Collection}
    (h : visit.outcome files rules = .ok prompts) : ∀ p ∈ prompts, WellFormed rules p := by
  cases visit with
  | unlisted dir error => cases h
  | file path => exact wellFormed_of_loadFile (Visit.outcome_file_eq_ok.mp h)

theorem wellFormed_of_records (wanted : String → Bool) :
    ∀ p ∈ records files config wanted, WellFormed config.rules p := by
  intro p hp
  obtain ⟨prompts, hprompts, hp⟩ := List.mem_flatten.mp hp
  obtain ⟨visit, -, houtcome⟩ := mem_contents.mp hprompts
  exact wellFormed_of_outcome houtcome p hp

theorem wellFormed_of_load {report : Report} (h : load files config = .ok report) :
    ∀ p ∈ report.prompts, WellFormed config.rules p := by
  obtain ⟨wanted, hwanted⟩ := wanted?_of_load h
  rw [load_eq_merged hwanted] at h
  obtain rfl := Except.ok.inj h
  intro p hp
  -- a merge into the empty collection holds nothing else
  have hmem := (Collection.mem_merged hp).resolve_left List.not_mem_nil
  exact wellFormed_of_records wanted p hmem

end

/-- A collection that loading gives: for a whole configuration, or for one file. -/
inductive Loaded : Collection → Prop where
  | configured {files : FileView} {config : Config} {report : Report}
      (h : load files config = .ok report) : Loaded report.prompts
  | single {files : FileView} {rules : Rules} {path : Path} {prompts : Collection}
      (h : loadFile files rules path = .ok prompts) : Loaded prompts

theorem Loaded.wellFormed {prompts : Collection} (h : Loaded prompts) :
    ∃ rules, ∀ p ∈ prompts, WellFormed rules p := by
  cases h with
  | configured h => exact ⟨_, wellFormed_of_load h⟩
  | single h => exact ⟨_, wellFormed_of_loadFile h⟩

end Loader

/-! ### Prompts and requests -/

/-- A pattern that is accepted, if there is one, and no option under a reserved key. -/
structure Checked (extract : Option String) (options : Options) : Prop where
  accepted : ∀ pattern, extract = some pattern → Pattern.accepts pattern.toList = true
  free : ∀ p ∈ options.toList, Prompt.isReservedKey p.1 = false

theorem Loader.Loaded.checked {prompts : Collection} (h : Loader.Loaded prompts) :
    ∀ p ∈ prompts, Checked p.extract p.options := by
  intro p hp
  obtain ⟨rules, hall⟩ := h.wellFormed
  have hwell := hall p hp
  exact ⟨fun pattern hpattern => (hwell.extract pattern hpattern).accepted,
    fun option hoption => (hwell.options option hoption).free⟩

namespace Session
open Loader (Loaded)

/-! ### Sessions -/

/-- A demand for loaded prompts; the others are found in the session. -/
def Demand.OfLoaded : Demand → Prop
  | .named _ => True
  | .given prompt => ∃ prompts, Loaded prompts ∧ prompt ∈ prompts
  | .again => True

/-- A step that publishes and runs loaded prompts only. -/
def Step.OfLoaded : Step → Prop
  | .publish prompts => Loaded prompts
  | .setModel _ => True
  | .run demand _ => demand.OfLoaded

/-- Every prompt that a session holds was checked. -/
structure Sound (session : Session) : Prop where
  prompts : ∀ p ∈ session.prompts, Checked p.extract p.options
  dot : ∀ p, session.dot = some p → Checked p.extract p.options

theorem sound_opened {start : Collection} (h : Loaded start) : Sound (opened start) where
  prompts := h.checked
  dot _ hdot := nomatch hdot

section
variable {session : Session} {demand : Demand} {asked : Asked}

/-- A request carries what its prompt says. -/
theorem request_of_answer {request : PreparedRequest}
    (h : (session.answer demand asked).1 = .ok request) :
    ∃ prompt text, demand.prompt? session = some prompt ∧ request = session.request prompt text := by
  cases hprompt : demand.prompt? session with
  | none =>
    obtain ⟨trouble, hanswer⟩ := answer_of_prompt?_none hprompt asked
    rw [hanswer] at h
    cases h
  | some prompt =>
    rw [answer_of_prompt? hprompt, run] at h
    cases hrun : Substitution.substitute asked.source (demand.reuse session) prompt.body
        asked.state with
    | mk result s =>
      rw [hrun] at h
      cases result with
      | error stop => cases h
      | ok done => exact ⟨prompt, done.text, rfl, (Except.ok.inj h).symm⟩

theorem Sound.prompt? (hs : Sound session) (hd : demand.OfLoaded) {prompt : Prompt}
    (h : demand.prompt? session = some prompt) : Checked prompt.extract prompt.options := by
  cases demand with
  | named name =>
    have hfind : session.find? name = some prompt := h
    rw [find?] at hfind
    split at hfind
    · exact hs.dot prompt hfind
    · exact hs.prompts prompt (List.mem_of_find?_eq_some hfind)
  | given given =>
    obtain rfl := Option.some.inj h
    obtain ⟨prompts, hprompts, hmem⟩ := hd
    exact hprompts.checked _ hmem
  | again => exact hs.dot prompt h

/-- **A step over loaded prompts keeps a session sound.** -/
theorem Sound.after (hs : Sound session) {step : Step} (hstep : step.OfLoaded) :
    Sound (session.after step) := by
  cases step with
  | publish prompts => exact ⟨hstep.checked, hs.dot⟩
  | setModel model => exact ⟨hs.prompts, hs.dot⟩
  | run demand asked =>
    cases hran : session.ran? demand asked with
    | none =>
      rw [after_run_of_ran?_none hran]
      exact hs
    | some ran =>
      rw [(after_run_of_ran? hran).1]
      obtain ⟨_, prompt, -, hprompt, rfl⟩ := ran?_eq_some hran
      have hchecked := hs.prompt? hstep hprompt
      refine ⟨hs.prompts, fun p hdot => ?_⟩
      obtain rfl := Option.some.inj hdot
      exact hchecked

theorem Sound.afterAll (hs : Sound session) {steps : List Step}
    (hsteps : ∀ step ∈ steps, step.OfLoaded) : Sound (session.afterAll steps) := by
  induction steps generalizing session with
  | nil => exact hs
  | cons step rest ih =>
    exact ih (hs.after (hsteps step List.mem_cons_self))
      fun step hmem => hsteps step (List.mem_cons_of_mem _ hmem)

end

/-- **What was checked when it was read stays so.** Every prompt that is parsed or loaded is
well formed, and in a session that only ever holds loaded prompts every request carries a
pattern that is accepted, if any, and no option under a reserved key. -/
theorem checked_from_text_to_request :
    (∀ rules text prompts, Template.parse rules text = .ok prompts →
      ∀ p ∈ prompts, Template.WellFormed rules p) ∧
    (∀ files rules path prompts, Loader.loadFile files rules path = .ok prompts →
      ∀ p ∈ prompts, Template.WellFormed rules p) ∧
    (∀ files config report, Loader.load files config = .ok report →
      ∀ p ∈ report.prompts, Template.WellFormed config.rules p) ∧
    ∀ start steps demand asked request, Loaded start → (∀ step ∈ steps, Step.OfLoaded step) →
      Demand.OfLoaded demand →
      (((opened start).afterAll steps).answer demand asked).1 = .ok request →
        (∀ pattern, request.extract = some pattern → Pattern.accepts pattern.toList = true) ∧
          ∀ p ∈ request.options.toList, Prompt.isReservedKey p.1 = false := by
  refine ⟨?_, ?_, ?_, ?_⟩
  · exact fun rules text prompts h p hp => (Template.wellFormed_of_parse h p hp).1
  · exact fun files rules path prompts h => Loader.wellFormed_of_loadFile h
  · exact fun files config report h => Loader.wellFormed_of_load h
  · intro start steps demand asked request hstart hsteps hdemand hrequest
    obtain ⟨prompt, text, hprompt, rfl⟩ := request_of_answer hrequest
    have hchecked := ((sound_opened hstart).afterAll hsteps).prompt? hdemand hprompt
    exact ⟨hchecked.accepted, hchecked.free⟩

/-- A tree with one template, which has a pattern and a setting. -/
def greetingTree : FileView :=
  MemoryTree.fileSystem.view (MemoryTree.addFile {} ⟨"p/a.md"⟩
    "---\nname: A\nextract: a+\ntop: 1\n---\nHello $input\n")

def greeting : Prompt where
  name := "A"
  body := "Hello $input"
  extract := some "a+"
  options := Options.empty.insert "top" "1"
  sourceFile := some ⟨"p/a.md"⟩

/-- Someone who answers every question. -/
def answering : Asked where
  source := Substitution.Script.source
  state := { defaultAnswer := some "you" }

theorem checked_from_text_to_request_greeting :
    Loader.loadFile greetingTree {} ⟨"p/a.md"⟩ = .ok [greeting] ∧
      Template.WellFormed {} greeting ∧
      ∃ request,
        (((opened [greeting]).afterAll [.publish [greeting], .run (.named "A") answering]).answer
          .again answering).1 = .ok request ∧
        request.extract = some "a+" ∧ Pattern.accepts "a+".toList = true ∧
        request.options.toList = [("top", "1")] ∧ Prompt.isReservedKey "top" = false := by
  have hload : Loader.loadFile greetingTree {} ⟨"p/a.md"⟩ = .ok [greeting] := by decide +kernel
  have hloaded : Loaded [greeting] := .single hload
  have hsteps : ∀ step ∈ [Step.publish [greeting], .run (.named "A") answering],
      step.OfLoaded := by
    intro step hmem
    rcases List.mem_pair.mp hmem with rfl | rfl
    · exact hloaded
    · exact trivial
  have hanswer : (((opened [greeting]).afterAll
      [.publish [greeting], .run (.named "A") answering]).answer .again answering).1 =
        .ok ⟨".", "Hello you", none, Options.empty.insert "top" "1", some "a+"⟩ := by
    decide +kernel
  obtain ⟨-, hfile, -, hsession⟩ := checked_from_text_to_request
  obtain ⟨haccepted, hfree⟩ := hsession _ _ .again _ _ hloaded hsteps trivial hanswer
  exact ⟨hload, hfile _ _ _ _ hload greeting (by simp), _, hanswer, rfl, haccepted _ rfl, rfl,
    hfree ("top", "1") (by simp [Options.empty, Options.insert, Options.insertPair])⟩

end Session
end Promptbook
