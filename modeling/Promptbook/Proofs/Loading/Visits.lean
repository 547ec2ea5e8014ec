import Promptbook.Files.MemoryTree
import Promptbook.Proofs.Text.OctetOrder
import Promptbook.Workspace.Loader

/-! What loading visits, and what comes of it.

The visits of a load are known before any file is read (`visits`): the directories that cannot
be listed, and in the others the wanted files, in the order of the octets of their names. What
comes of a visit, prompts or a failure, depends on that visit alone (`Visit.outcome`). A load
puts all of this together (`load_eq_report`): no visit is left out, and none that fails changes
what the others add. -/
namespace Promptbook.Loader
open Template (Rules)

/-! ### Visits -/

/-- A place that loading comes to. -/
inductive Visit where
  /-- A directory whose entries could not be listed. -/
  | unlisted (dir : Path) (error : FileError)
  | file (path : Path)
  deriving DecidableEq

/-- Names in the order of their octets. -/
def inOctetOrder (names : List String) : List String :=
  names.mergeSort fun a b => Text.encodeUtf8 a ≤ Text.encodeUtf8 b

/-- The visits in one directory; none if it is missing. -/
def visitsIn (files : FileView) (wanted : String → Bool) (dir : Path) : List Visit :=
  if files.isDir dir then
    match files.list dir with
    | .error error => [.unlisted dir error]
    | .ok names =>
      ((inOctetOrder names).filter fun name => wanted name && files.isFile (dir.join ⟨name⟩)).map
        fun name => .file (dir.join ⟨name⟩)
  else []

/-- The visits in these directories, one after another. -/
def visits (files : FileView) (wanted : String → Bool) (dirs : List Path) : List Visit :=
  dirs.flatMap (visitsIn files wanted)

/-- What comes of a visit: the prompts of a file, each with the file as its source, or the
failure that is noted. -/
def Visit.outcome (files : FileView) (rules : Rules) : Visit → Except Failure Collection
  | .unlisted dir error => .error ⟨dir, .file error⟩
  | .file path =>
    match files.read path with
    | .error error => .error ⟨path, .file error⟩
    | .ok text =>
      match Template.parse rules text with
      | .error error => .error ⟨path, .parse path error⟩
      | .ok prompts => .ok (prompts.map fun prompt => { prompt with sourceFile := some path })

theorem Visit.outcome_file (files : FileView) (rules : Rules) (path : Path) :
    (Visit.file path).outcome files rules =
      (loadFile files rules path).mapError fun trouble => ⟨path, trouble⟩ := by
  rw [outcome, loadFile]
  cases files.read path with
  | error error => rfl
  | ok text =>
    simp only
    cases Template.parse rules text <;> rfl

theorem Visit.outcome_file_eq_ok {files : FileView} {rules : Rules} {path : Path}
    {prompts : Collection} :
    (Visit.file path).outcome files rules = .ok prompts ↔
      loadFile files rules path = .ok prompts := by
  rw [outcome_file]
  cases loadFile files rules path <;> simp [Except.mapError]

theorem loadFile_eq_ok {files : FileView} {rules : Rules} {path : Path} {prompts : Collection}
    (h : loadFile files rules path = .ok prompts) :
    ∃ text parsed, files.read path = .ok text ∧ Template.parse rules text = .ok parsed ∧
      prompts = parsed.map fun prompt => { prompt with sourceFile := some path } := by
  rw [loadFile] at h
  cases hread : files.read path with
  | error error =>
    rw [hread] at h
    cases h
  | ok text =>
    simp only [hread] at h
    cases hparse : Template.parse rules text with
    | error error =>
      rw [hparse] at h
      cases h
    | ok parsed =>
      rw [hparse] at h
      exact ⟨text, parsed, rfl, hparse, (Except.ok.inj h).symm⟩

/-! ### Outcomes -/

def failure? : Except Failure Collection → Option Failure
  | .ok _ => none
  | .error failure => some failure

/-- The collections that these visits give, in order. -/
def contents (files : FileView) (rules : Rules) (places : List Visit) : List Collection :=
  places.filterMap fun visit => (visit.outcome files rules).toOption

/-- The failures of these visits, in order. -/
def failures (files : FileView) (rules : Rules) (places : List Visit) : List Failure :=
  places.filterMap fun visit => failure? (visit.outcome files rules)

/-- Collections merged one after another into the empty one. -/
def mergeAll (policy : MergePolicy) (collections : List Collection) : Collection :=
  collections.foldl (fun prompts more => Collection.merged prompts more policy) []

/-- The report with what comes of one more visit. -/
def Report.with (policy : MergePolicy) (report : Report) : Except Failure Collection → Report
  | .ok prompts => { report with prompts := Collection.merged report.prompts prompts policy }
  | .error failure => { report with failures := report.failures ++ [failure] }

section
variable (files : FileView) (config : Config) (wanted : String → Bool)

/-- What the loader adds for a visit. -/
def visited (report : Report) (visit : Visit) : Report :=
  report.with config.merge (visit.outcome files config.rules)

theorem foldl_visited (places : List Visit) (report : Report) :
    places.foldl (visited files config) report =
      ⟨(contents files config.rules places).foldl
          (fun prompts more => Collection.merged prompts more config.merge) report.prompts,
        report.failures ++ failures files config.rules places⟩ := by
  induction places generalizing report with
  | nil => simp [contents, failures]
  | cons visit rest ih =>
    rw [List.foldl_cons, ih, visited]
    cases h : visit.outcome files config.rules with
    | ok prompts => simp [Report.with, contents, failures, failure?, Except.toOption, h]
    | error failure => simp [Report.with, contents, failures, failure?, Except.toOption, h]

/-! ### The loader -/

theorem visitFile_eq (report : Report) (path : Path) :
    visitFile files config report path = visited files config report (.file path) := by
  rw [visitFile, visited, Visit.outcome_file]
  cases loadFile files config.rules path <;> rfl

/-- Names are in the order of their octets when they are in order. -/
theorem sortNames_eq (names : List String) : sortNames names = inOctetOrder names := by
  simp only [sortNames, inOctetOrder, Text.encodeUtf8_le_iff]

theorem wantedFiles_eq (dir : Path) (names : List String) :
    (wantedFiles files wanted dir names).map .file =
      ((inOctetOrder names).filter fun name => wanted name && files.isFile (dir.join ⟨name⟩)).map
        fun name => Visit.file (dir.join ⟨name⟩) := by
  rw [wantedFiles, sortNames_eq, List.filter_map, List.filter_filter, List.map_map]
  simp only [Function.comp_def, Bool.and_comm]

theorem visitDir_eq (report : Report) (dir : Path) :
    visitDir files config wanted report dir =
      (visitsIn files wanted dir).foldl (visited files config) report := by
  rw [visitDir, visitsIn]
  split
  · cases files.list dir with
    | error error => rfl
    | ok names =>
      simp only
      rw [← wantedFiles_eq, List.foldl_map]
      exact List.foldl_ext _ _ _ fun report path _ => visitFile_eq files config report path
  · rfl

theorem foldl_visitDir (dirs : List Path) (report : Report) :
    dirs.foldl (visitDir files config wanted) report =
      (visits files wanted dirs).foldl (visited files config) report := by
  rw [visits, List.foldl_flatMap]
  exact List.foldl_ext _ _ _ fun report dir _ => visitDir_eq files config wanted report dir

end

/-! ### Loads -/

section
variable {files : FileView} {rules : Rules}

theorem mem_contents {prompts : Collection} {places : List Visit} :
    prompts ∈ contents files rules places ↔
      ∃ visit ∈ places, visit.outcome files rules = .ok prompts := by
  rw [contents, List.mem_filterMap]
  refine exists_congr fun visit => and_congr_right fun _ => ?_
  cases visit.outcome files rules <;> simp [Except.toOption]

theorem contents_append (a b : List Visit) :
    contents files rules (a ++ b) = contents files rules a ++ contents files rules b :=
  List.filterMap_append

theorem failures_append (a b : List Visit) :
    failures files rules (a ++ b) = failures files rules a ++ failures files rules b :=
  List.filterMap_append

/-- One visit adds its prompts or its failure to what comes of the others. -/
theorem outcome_cases (before : List Visit) (visit : Visit) (after : List Visit) :
    match visit.outcome files rules with
    | .ok prompts =>
      contents files rules (before ++ visit :: after) =
          contents files rules before ++ prompts :: contents files rules after ∧
        failures files rules (before ++ visit :: after) = failures files rules (before ++ after)
    | .error failure =>
      contents files rules (before ++ visit :: after) = contents files rules (before ++ after) ∧
        failures files rules (before ++ visit :: after) =
          failures files rules before ++ failure :: failures files rules after := by
  cases h : visit.outcome files rules with
  | ok prompts =>
    rw [contents_append, failures_append, failures_append]
    simp [contents, failures, failure?, Except.toOption, h]
  | error failure =>
    rw [contents_append, contents_append, failures_append]
    simp [contents, failures, failure?, Except.toOption, h]

theorem wanted?_of_load {config : Config} {report : Report} (h : load files config = .ok report) :
    ∃ wanted, wanted? config.pattern = .ok wanted := by
  rw [load] at h
  cases hwanted : wanted? config.pattern with
  | error trouble =>
    rw [hwanted] at h
    cases h
  | ok wanted => exact ⟨wanted, rfl⟩

theorem load_of_wanted? {config : Config} {wanted : String → Bool}
    (h : wanted? config.pattern = .ok wanted) (files : FileView) :
    load files config = .ok
      ⟨mergeAll config.merge (contents files config.rules (visits files wanted config.templateDirs)),
        failures files config.rules (visits files wanted config.templateDirs)⟩ := by
  rw [load, h]
  simp only
  rw [foldl_visitDir, foldl_visited, List.nil_append]
  rfl

end

/-- **A load gives what its visits give.** It never fails as a whole; the prompts are those of
the files that are read, merged in the order of the visits, and the failures are noted in that
order. A visit either adds all its prompts or one failure, and one that fails leaves the prompts
as they would be without it. -/
theorem load_eq_report (files : FileView) (config : Config) {wanted : String → Bool}
    (h : wanted? config.pattern = .ok wanted) :
    ∃ places, places = visits files wanted config.templateDirs ∧
      load files config = .ok ⟨mergeAll config.merge (contents files config.rules places),
        failures files config.rules places⟩ ∧
      ∀ before visit after, places = before ++ visit :: after →
        match visit.outcome files config.rules with
        | .ok prompts =>
          contents files config.rules places =
              contents files config.rules before ++ prompts :: contents files config.rules after ∧
            failures files config.rules places = failures files config.rules (before ++ after)
        | .error failure =>
          contents files config.rules places = contents files config.rules (before ++ after) ∧
            failures files config.rules places =
              failures files config.rules before ++ failure :: failures files config.rules after := by
  refine ⟨_, rfl, load_of_wanted? h files, ?_⟩
  intro before visit after hsplit
  rw [hsplit]
  exact outcome_cases before visit after

/-- A tree with one template, one text that is none, one file of another kind, and a directory
that may not be listed. -/
def mixedTree : FileView :=
  MemoryTree.fileSystem.denying.view ({ list := [⟨"q"⟩] },
    ((MemoryTree.addFile {} ⟨"p/b.md"⟩ "---\nname: B\n---\nx\n").addFile
      ⟨"p/a.md"⟩ "---\nbad\n---\n").addFile ⟨"p/c.txt"⟩ "" |>.addDir ⟨"q"⟩)

theorem load_eq_report_mixed :
    ∃ wanted, wanted? "*.md" = .ok wanted ∧
      visits mixedTree wanted [⟨"p"⟩, ⟨"q"⟩] =
        [.file ⟨"p/a.md"⟩, .file ⟨"p/b.md"⟩, .unlisted ⟨"q"⟩ (.denied ⟨"q"⟩)] ∧
      load mixedTree { Config.ofRoot ⟨""⟩ with templateDirs := [⟨"p"⟩, ⟨"q"⟩] } =
        .ok ⟨[⟨"B", "x", none, none, none, .empty, some ⟨"p/b.md"⟩⟩],
          [⟨⟨"p/a.md"⟩, .parse ⟨"p/a.md"⟩ ⟨.malformedHeader "bad", 2⟩⟩,
            ⟨⟨"q"⟩, .file (.denied ⟨"q"⟩)⟩]⟩ := by
  have hwanted : wanted? "*.md" =
      .ok (Glob.matchesTokens [.anyRow, .literal '.', .literal 'm', .literal 'd']) := rfl
  have hnames : mixedTree.list ⟨"p"⟩ = .ok ["a.md", "b.md", "c.txt"] := by decide +kernel
  have hdenied : mixedTree.list ⟨"q"⟩ = .error (.denied ⟨"q"⟩) := by decide +kernel
  -- sorting does not evaluate, but the names are in order already
  have hsorted : inOctetOrder ["a.md", "b.md", "c.txt"] = ["a.md", "b.md", "c.txt"] :=
    List.mergeSort_of_pairwise (by decide +kernel)
  have hvisits : visits mixedTree
      (Glob.matchesTokens [.anyRow, .literal '.', .literal 'm', .literal 'd']) [⟨"p"⟩, ⟨"q"⟩] =
        [.file ⟨"p/a.md"⟩, .file ⟨"p/b.md"⟩, .unlisted ⟨"q"⟩ (.denied ⟨"q"⟩)] := by
    rw [visits, List.flatMap_cons, List.flatMap_cons, visitsIn, visitsIn]
    simp only [hnames, hdenied, hsorted]
    decide +kernel
  obtain ⟨places, hplaces, hload, -⟩ := load_eq_report mixedTree
    { Config.ofRoot ⟨""⟩ with templateDirs := [⟨"p"⟩, ⟨"q"⟩] } hwanted
  refine ⟨_, hwanted, hvisits, ?_⟩
  rw [hload, hplaces, hvisits]
  decide +kernel

end Promptbook.Loader
