import Promptbook.Proofs.Loading.Visits
import Promptbook.Proofs.Prompt.Merging

/-! How prompts are spread over files does not count.

Merging file after file is merging all their prompts at once (`mergeAll_eq_merged`), so what a
load gives is decided by the sequence of the prompts that were read (`records`): where the
first of a name stands and which one is the last is asked of that sequence, not of files and
directories (`prompts_of_load`). -/
namespace Promptbook.Loader

/-- The prompts of all files that are read, in the order of the visits. -/
def records (files : FileView) (config : Config) (wanted : String → Bool) : Collection :=
  (contents files config.rules (visits files wanted config.templateDirs)).flatten

/-- A prompt without the file that it came from. -/
def unsourced (prompt : Prompt) : Prompt := { prompt with sourceFile := none }

theorem foldl_merged (policy : MergePolicy) (collections : List Collection) (prompts : Collection) :
    collections.foldl (fun prompts more => Collection.merged prompts more policy) prompts =
      Collection.merged prompts collections.flatten policy := by
  induction collections generalizing prompts with
  | nil => simp
  | cons first rest ih => rw [List.foldl_cons, ih, List.flatten_cons, Collection.merged_append]

theorem mergeAll_eq_merged (policy : MergePolicy) (collections : List Collection) :
    mergeAll policy collections = Collection.merged [] collections.flatten policy :=
  foldl_merged policy collections []

theorem load_eq_merged {files : FileView} {config : Config} {wanted : String → Bool}
    (h : wanted? config.pattern = .ok wanted) :
    load files config = .ok ⟨Collection.merged [] (records files config wanted) config.merge,
      failures files config.rules (visits files wanted config.templateDirs)⟩ := by
  rw [load_of_wanted? h, mergeAll_eq_merged, records]

/-- **What is loaded is decided by the sequence of the prompts that were read.** Replacing, each
name is listed once, where it is met first, and it finds the prompt that bears it last;
accumulating, the sequence is kept, and a name finds the prompt that bears it first. Other
files and directories with the same sequence give the same prompts, but for the files that
they came from. -/
theorem prompts_of_load (files : FileView) (config : Config) {wanted : String → Bool}
    (h : wanted? config.pattern = .ok wanted) :
    ∃ report, load files config = .ok report ∧
      (config.merge = .replace →
        report.prompts.names.Nodup ∧
        report.prompts.names = distinct (records files config wanted).names ∧
        ∀ name, report.prompts.get? name =
          ((records files config wanted).filter (·.name = name)).getLast?) ∧
      (config.merge = .accumulate →
        report.prompts = records files config wanted ∧
        ∀ name, report.prompts.get? name =
          ((records files config wanted).filter (·.name = name)).head?) ∧
      ∀ files' config' wanted' report', wanted? config'.pattern = .ok wanted' →
        config'.merge = config.merge →
        (records files' config' wanted').map unsourced = (records files config wanted).map unsourced →
        load files' config' = .ok report' →
        report'.prompts.map unsourced = report.prompts.map unsourced := by
  refine ⟨_, load_eq_merged h, ?_, ?_, ?_⟩
  · intro hmerge
    rw [hmerge, Collection.names_nil_merged]
    exact ⟨nodup_distinct _, rfl, Collection.get?_nil_merged _⟩
  · intro hmerge
    rw [hmerge]
    exact ⟨rfl, fun name => List.head?_filter.symm⟩
  · intro files' config' wanted' report' h' hmerge hrecords hload
    rw [load_eq_merged h'] at hload
    obtain rfl := Except.ok.inj hload
    have hname (p : Prompt) : (unsourced p).name = p.name := rfl
    rw [Collection.map_merged hname, Collection.map_merged hname, hrecords, hmerge]

/-- A tree with four prompts in two directories, and the same four in one file of a third. -/
def spreadTree : FileView :=
  MemoryTree.fileSystem.view
    (((MemoryTree.addFile {} ⟨"p/a.md"⟩
      "---\nname: A\n---\n1\n---\nname: B\n---\nx\n---\nname: A\n---\n2\n").addFile
      ⟨"q/c.md"⟩ "---\nname: A\n---\n3\n").addFile ⟨"r/d.md"⟩
      "---\nname: A\n---\n1\n---\nname: B\n---\nx\n---\nname: A\n---\n2\n---\nname: A\n---\n3\n")

/-- A configuration that replaces prompts of one name. -/
def replacing (dirs : List Path) : Config :=
  { Config.ofRoot ⟨""⟩ with templateDirs := dirs, merge := .replace }

theorem prompts_of_load_spread :
    ∃ wanted report report', wanted? "*.md" = .ok wanted ∧
      load spreadTree (replacing [⟨"p"⟩, ⟨"q"⟩]) = .ok report ∧
      load spreadTree (replacing [⟨"r"⟩]) = .ok report' ∧
      report.prompts.names = ["A", "B"] ∧
      report.prompts.get? "A" =
        some { name := "A", body := "3", sourceFile := some ⟨"q/c.md"⟩ } ∧
      report'.prompts.map unsourced = report.prompts.map unsourced := by
  have hwanted : wanted? "*.md" =
      .ok (Glob.matchesTokens [.anyRow, .literal '.', .literal 'm', .literal 'd']) := rfl
  have hp : spreadTree.list ⟨"p"⟩ = .ok ["a.md"] := by decide +kernel
  have hq : spreadTree.list ⟨"q"⟩ = .ok ["c.md"] := by decide +kernel
  have hr : spreadTree.list ⟨"r"⟩ = .ok ["d.md"] := by decide +kernel
  have hone (name : String) : inOctetOrder [name] = [name] := List.mergeSort_singleton name
  have hapart : visits spreadTree
      (Glob.matchesTokens [.anyRow, .literal '.', .literal 'm', .literal 'd'])
      (replacing [⟨"p"⟩, ⟨"q"⟩]).templateDirs = [.file ⟨"p/a.md"⟩, .file ⟨"q/c.md"⟩] := by
    rw [replacing, visits, List.flatMap_cons, List.flatMap_cons, visitsIn, visitsIn]
    simp only [hp, hq, hone]
    decide +kernel
  have htogether : visits spreadTree
      (Glob.matchesTokens [.anyRow, .literal '.', .literal 'm', .literal 'd'])
      (replacing [⟨"r"⟩]).templateDirs = [.file ⟨"r/d.md"⟩] := by
    rw [replacing, visits, List.flatMap_cons, visitsIn]
    simp only [hr, hone]
    decide +kernel
  obtain ⟨report, hload, hreplace, -, hsame⟩ :=
    prompts_of_load spreadTree (replacing [⟨"p"⟩, ⟨"q"⟩]) hwanted
  obtain ⟨report', hload', -⟩ := prompts_of_load spreadTree (replacing [⟨"r"⟩]) hwanted
  obtain ⟨-, hnames, hget⟩ := hreplace rfl
  refine ⟨_, report, report', hwanted, hload, hload', ?_, ?_, ?_⟩
  · rw [hnames, records, hapart]
    decide +kernel
  · rw [hget, records, hapart]
    decide +kernel
  · refine hsame spreadTree (replacing [⟨"r"⟩]) _ report' hwanted rfl ?_ hload'
    rw [records, records, hapart, htogether]
    decide +kernel

end Promptbook.Loader
