import Promptbook.CommandLine.Run
import Promptbook.Files.MemoryTree
import Promptbook.Proofs.CommandLine.Reading
import Promptbook.Proofs.Loading.LeftOut

/-! How a rendering ends.

A rendering whose configuration and prompts load ends as a substitution of one body does: the
body of the first prompt with the name, over the console with the registers of the arguments
(`render_of_load`). There are three ends, and only the first of them shows anything: a text, a
question called off, and every other failure. A file that is left out of the load takes no part
in it. -/
namespace Promptbook.CommandLine
open Substitution (Console Registers substitute)

/-! ### Registers -/

theorem lookup_eq_head? (registers : Registers) (name : Char) :
    registers.lookup name = (registers.filter (·.1 = name)).head?.map (·.2) := by
  induction registers with
  | nil => rfl
  | cons register rest ih =>
    obtain ⟨other, text⟩ := register
    by_cases h : other = name
    · simp [h]
    · rw [List.lookup_cons, beq_eq_false_iff_ne.mpr (Ne.symm h),
        List.filter_cons_of_neg (by simpa using h)]
      exact ih

/-- The last text that a register is given counts. -/
theorem get_eq_getLast? (registers : Registers) (name : Char) :
    registers.get name = ((registers.filter (·.1 = name)).getLast?.map (·.2)).getD "" := by
  rw [Registers.get, lookup_eq_head?, List.filter_reverse, List.head?_reverse]

/-! ### One prompt -/

/-- The prompt that a rendering is about; `.` names none. -/
def rendered? (prompts : Collection) (name : String) : Option Prompt :=
  if name = Prompt.dotName then none else prompts.find? (·.name = name)

/-- How a rendering ends, as the substitution over a console decides it: with the text or the
request, with nothing if a question was called off, and else with a failure. -/
def EndsAs (prompts : Collection) (defaultModel : Option String) (name : String) (json : Bool)
    (console : Console) (answer : Answer) : Prop :=
  match rendered? prompts name with
  | none => answer.code = 1 ∧ answer.output = ""
  | some prompt =>
    match (substitute Console.source none prompt.body console).1 with
    | .ok done => answer.code = 0 ∧
        answer.output =
          (if json then
            (PreparedRequest.mk name done.text (prompt.model.or defaultModel) prompt.options
              prompt.extract).toJson.pretty
          else done.text) ++ "\n"
    | .error .cancelled => answer.code = 0 ∧ answer.output = ""
    | .error (.emptyRegister _) | .error (.source _) => answer.code = 1 ∧ answer.output = ""

/-- A session in which nothing ran yet finds the prompt of a rendering. -/
theorem find?_eq_rendered? (prompts : Collection) (defaultModel : Option String) (name : String) :
    Session.find? { prompts := prompts, defaultModel := defaultModel } name =
      rendered? prompts name := rfl

theorem name_of_rendered? {prompts : Collection} {name : String} {prompt : Prompt}
    (h : rendered? prompts name = some prompt) : prompt.name = name := by
  rw [rendered?] at h
  split at h
  · cases h
  · simpa using List.find?_some h

theorem answerRender_ends (prompts : Collection) (defaultModel : Option String) (name : String)
    (json : Bool) (console : Console) :
    EndsAs prompts defaultModel name json console
      (answerRender { prompts := prompts, defaultModel := defaultModel } name json console).1 := by
  rw [answerRender, Session.prepare, find?_eq_rendered?, EndsAs]
  cases hprompt : rendered? prompts name with
  | none => exact ⟨rfl, rfl⟩
  | some prompt =>
    simp only [Session.run]
    cases hrun : substitute Console.source none prompt.body console with
    | mk result after =>
      cases result with
      | ok done =>
        refine ⟨rfl, ?_⟩
        rw [← name_of_rendered? hprompt]
        rfl
      | error stop => cases stop <;> exact ⟨rfl, rfl⟩

/-! ### Renderings -/

/-- The console that a rendering asks. -/
def asked (console : Console) (filetype : String) (registers : Registers) : Console :=
  { console with registers := registers, filetype := filetype }

section
variable {fileSystem : FileSystem τ} {workingDirectory : Path} {arguments : List String}
  {tree : τ} {invocation : Invocation} {config : Config} {report : Loader.Report}
  {name filetype : String} {registers : Registers} {json : Bool}

/-- A rendering is a run of the prompt in a session with what was loaded. -/
theorem execute_render (hread : read arguments = .ok invocation)
    (hcommand : invocation.command = .render name filetype registers json)
    (hconfig : configure (fileSystem.view tree) workingDirectory invocation = .ok config)
    (hload : Loader.load (fileSystem.view tree) config = .ok report) (console : Console) :
    execute fileSystem workingDirectory arguments console tree =
      let ended := answerRender { prompts := report.prompts, defaultModel := config.defaultModel }
        name json (asked console filetype registers)
      (ended.1, ended.2, tree) := by
  rw [execute, hread]
  simp only [run, hconfig, hload, perform, hcommand]
  rfl

/-- Trees with the same configuration in which the same prompts are read give the same end. -/
theorem execute_of_records (hread : read arguments = .ok invocation)
    (hcommand : invocation.command = .render name filetype registers json)
    (hconfig : configure (fileSystem.view tree) workingDirectory invocation = .ok config)
    {wanted : String → Bool} (hwanted : Loader.wanted? config.pattern = .ok wanted) {other : τ}
    (hother : configure (fileSystem.view other) workingDirectory invocation = .ok config)
    (hrecords : Loader.records (fileSystem.view other) config wanted =
      Loader.records (fileSystem.view tree) config wanted) {console after : Console}
    {answer : Answer}
    (hend : execute fileSystem workingDirectory arguments console tree = (answer, after, tree)) :
    execute fileSystem workingDirectory arguments console other = (answer, after, other) := by
  rw [execute_render hread hcommand hconfig (Loader.load_eq_merged hwanted)] at hend
  rw [execute_render hread hcommand hother (Loader.load_eq_merged hwanted), hrecords]
  exact Prod.ext (congrArg (·.1) hend) (Prod.ext (congrArg (·.2.1) hend) rfl)

/-- **How a rendering ends**, if its configuration and the prompts load: in one of three ways, as
the substitution of the prompt's body decides it, with the register texts that were given last.
It changes no file, and the files that cannot be loaded have no part in it: over a tree with
others of them, or none, it ends in the same way. -/
theorem render_of_load (hread : read arguments = .ok invocation)
    (hcommand : invocation.command = .render name filetype registers json)
    (hconfig : configure (fileSystem.view tree) workingDirectory invocation = .ok config)
    (hload : Loader.load (fileSystem.view tree) config = .ok report) (console : Console) :
    ∃ answer after,
      execute fileSystem workingDirectory arguments console tree = (answer, after, tree) ∧
      (∀ register, Console.source.register register (asked console filetype registers) =
        (.ok (((registers.filter (·.1 = register)).getLast?.map (·.2)).getD ""),
          asked console filetype registers)) ∧
      EndsAs report.prompts config.defaultModel name json (asked console filetype registers)
        answer ∧
      ∀ other apart, configure (fileSystem.view other) workingDirectory invocation = .ok config →
        Loader.AgreeBut apart config.templateDirs (fileSystem.view tree) (fileSystem.view other) →
        (∀ path, apart path = true →
          ∃ trouble, Loader.loadFile (fileSystem.view tree) config.rules path = .error trouble) →
        (∀ path, apart path = true →
          ∃ trouble, Loader.loadFile (fileSystem.view other) config.rules path = .error trouble) →
        execute fileSystem workingDirectory arguments console other = (answer, after, other) := by
  have hend := execute_render hread hcommand hconfig hload console
  refine ⟨_, _, hend, fun register => ?_, answerRender_ends .., ?_⟩
  · rw [← get_eq_getLast?]
    rfl
  · intro other apart hother hagree htree hlacking
    obtain ⟨wanted, hwanted⟩ := Loader.wanted?_of_load hload
    exact execute_of_records hread hcommand hconfig hwanted hother
      (Loader.records_of_agreeBut hagree htree hlacking wanted) hend

end

/-- A tree with one prompt. -/
def tidyTree : MemoryTree :=
  MemoryTree.addFile {} ⟨"w/prompts/a.md"⟩ "---\nname: A\n---\n$register_a $input\n"

/-- The same tree with a text that is no template, too. -/
def untidyTree : MemoryTree := tidyTree.addFile ⟨"w/prompts/b.md"⟩ "---\nbad\n---\n"

/-- Whether a path leads to the text that is no template. -/
def isUntidy (path : Path) : Bool := path.components = (Path.mk "w/prompts/b.md").components

theorem file?_untidyTree (path : Path) : untidyTree.file? path =
    if isUntidy path then some "---\nbad\n---\n" else tidyTree.file? path := by
  rw [untidyTree, MemoryTree.file?_addFile]
  simp [isUntidy]

theorem agreeBut_untidy : Loader.AgreeBut isUntidy [⟨"w/prompts"⟩]
    (MemoryTree.fileSystem.view untidyTree) (MemoryTree.fileSystem.view tidyTree) where
  isDir := by decide +kernel
  list dir hdir := by
    obtain rfl := List.mem_singleton.mp hdir
    exact .inr ⟨["a.md", "b.md"], ["a.md"], by decide +kernel⟩
  isFile path hpath := by
    simp [MemoryTree.fileSystem, MemoryTree.isFile, file?_untidyTree, hpath]
  read path hpath := by
    simp [MemoryTree.fileSystem, MemoryTree.read, file?_untidyTree, hpath]

theorem loadFile_untidyTree {path : Path} (h : isUntidy path = true) :
    ∃ trouble,
      Loader.loadFile (MemoryTree.fileSystem.view untidyTree) ⟨true⟩ path = .error trouble := by
  have hread : untidyTree.read path = .ok "---\nbad\n---\n" := by
    simp [MemoryTree.read, file?_untidyTree, h]
  have hparse : Template.parse ⟨true⟩ "---\nbad\n---\n" = .error ⟨.malformedHeader "bad", 2⟩ := by
    decide +kernel
  refine ⟨.parse path ⟨.malformedHeader "bad", 2⟩, ?_⟩
  simp [Loader.loadFile, MemoryTree.fileSystem, hread, hparse]

theorem loadFile_tidyTree {path : Path} (h : isUntidy path = true) :
    ∃ trouble,
      Loader.loadFile (MemoryTree.fileSystem.view tidyTree) ⟨true⟩ path = .error trouble := by
  have hne : path.components ≠ (Path.mk "w/prompts/a.md").components := by
    rw [of_decide_eq_true h]
    decide +kernel
  have hnone : tidyTree.file? path = none := by
    rw [tidyTree, MemoryTree.file?_addFile, if_neg hne]
    rfl
  refine ⟨.file (.notFound path), ?_⟩
  simp [Loader.loadFile, MemoryTree.fileSystem, MemoryTree.read, hnone]

/-- The prompt of both trees. -/
def promptA : Prompt :=
  { name := "A", body := "$register_a $input", sourceFile := some ⟨"w/prompts/a.md"⟩ }

/-- A console with one line to read. -/
def oneLine : Console := { unread := Text.encodeUtf8 "Bob\n" }

/-- The command that renders the prompt, with a register that is given twice. -/
def renderA : Invocation := ⟨.render "A" "rust" [('a', "Good day"), ('a', "Hello")] false, none, []⟩

theorem configure_renderA (tree : MemoryTree) (h : tree.isFile ⟨"w/.lmp/config.toml"⟩ = false) :
    configure (MemoryTree.fileSystem.view tree) ⟨"w"⟩ renderA = .ok (Config.ofRoot ⟨"w"⟩) := by
  have hfile :
      (MemoryTree.fileSystem.view tree).isFile (Config.ofRoot ⟨"w"⟩).configFile = false := by
    rw [show (Config.ofRoot ⟨"w"⟩).configFile = ⟨"w/.lmp/config.toml"⟩ by decide +kernel]
    exact h
  simp [configure, Config.load, renderA, hfile]

/-- The visits in the untidy tree; sorting does not evaluate, but the names are in order. -/
theorem records_untidyTree :
    Loader.records (MemoryTree.fileSystem.view untidyTree) (Config.ofRoot ⟨"w"⟩)
      (Glob.matchesTokens [.anyRow, .literal '.', .literal 'm', .literal 'd']) = [promptA] := by
  have hdirs : (Config.ofRoot ⟨"w"⟩).templateDirs = [⟨"w/prompts"⟩] := by decide +kernel
  have hnames : (MemoryTree.fileSystem.view untidyTree).list ⟨"w/prompts"⟩ =
      .ok ["a.md", "b.md"] := by decide +kernel
  have hsorted : Loader.inOctetOrder ["a.md", "b.md"] = ["a.md", "b.md"] :=
    List.mergeSort_of_pairwise (by decide +kernel)
  have hvisits : Loader.visits (MemoryTree.fileSystem.view untidyTree)
      (Glob.matchesTokens [.anyRow, .literal '.', .literal 'm', .literal 'd'])
      (Config.ofRoot ⟨"w"⟩).templateDirs =
        [.file ⟨"w/prompts/a.md"⟩, .file ⟨"w/prompts/b.md"⟩] := by
    rw [hdirs, Loader.visits, List.flatMap_cons, Loader.visitsIn]
    simp only [hnames, hsorted]
    decide +kernel
  rw [Loader.records, hvisits]
  decide +kernel

theorem render_of_load_untidy :
    ∃ arguments answer after, read arguments = .ok renderA ∧
      execute MemoryTree.fileSystem ⟨"w"⟩ arguments oneLine untidyTree =
        (answer, after, untidyTree) ∧
      answer.code = 0 ∧ answer.output = "Hello Bob\n" ∧
      execute MemoryTree.fileSystem ⟨"w"⟩ arguments oneLine tidyTree =
        (answer, after, tidyTree) := by
  have hread : read (renderArguments none [] "A" "rust" [('a', "Good day"), ('a', "Hello")] false) =
      .ok renderA := read_render (by simp) (by simp) (by decide) "A" "rust" false
  have hwanted : Loader.wanted? (Config.ofRoot ⟨"w"⟩).pattern =
      .ok (Glob.matchesTokens [.anyRow, .literal '.', .literal 'm', .literal 'd']) := rfl
  obtain ⟨answer, after, hend, -, hanswer, hother⟩ := render_of_load hread rfl
    (configure_renderA untidyTree (by decide +kernel)) (Loader.load_eq_merged hwanted) oneLine
  have hprompt : rendered? (Collection.merged [] [promptA] (Config.ofRoot ⟨"w"⟩).merge) "A" =
      some promptA := by decide +kernel
  have hrun : (substitute Console.source none promptA.body
      (asked oneLine "rust" [('a', "Good day"), ('a', "Hello")])).1 = .ok ⟨"Hello Bob", none⟩ := by
    decide +kernel
  rw [records_untidyTree, EndsAs, hprompt] at hanswer
  simp only [hrun] at hanswer
  obtain ⟨hcode, houtput⟩ := hanswer
  exact ⟨_, answer, after, hread, hend, hcode, houtput, hother tidyTree isUntidy
    (configure_renderA tidyTree (by decide +kernel)) agreeBut_untidy (fun _ => loadFile_untidyTree)
    fun _ => loadFile_tidyTree⟩

end Promptbook.CommandLine
