import Promptbook.Proofs.Files.InMemory
import Promptbook.Proofs.Files.OnDisk

/-! A tree in memory in place of one on a disk.

A tree in memory knows no directories of its own and refuses nothing, and yet nobody can tell it
from a directory on a disk who does not work against what is there: files are not stored where a
directory is, nor directories made where a file is, and nothing is put below a file (`Fitting`).
Both then hold one layout (`Alike`), every step keeps it so (`Alike.perform`), and what is seen of
a layout does not depend on who holds it (`memory_stands_in`). -/
namespace Promptbook
open Promptbook.Path (ofNames)

/-! ### Steps -/

/-- What is done to a file tree. -/
inductive FileStep where
  | store (names : List String) (text : String)
  | makeDir (names : List String)
  deriving DecidableEq

namespace FileStep

def names : FileStep → List String
  | .store names _ => names
  | .makeDir names => names

/-- Whether a step does not work against what is seen: a file is not stored where a directory is,
a directory is not made where a file is, and neither is put below a file. -/
def Fits (view : FileView) : FileStep → Prop
  | .store names _ => view.isDir (ofNames names) = false ∧
      ∀ above, above ≠ [] → above <+: names → above ≠ names → view.isFile (ofNames above) = false
  | .makeDir names => ∀ above, above ≠ [] → above <+: names → view.isFile (ofNames above) = false

end FileStep

/-- A file system in which directories can be made, too. -/
structure Adapter (τ : Type) where
  fileSystem : FileSystem τ
  makeDir : Path → τ → τ

namespace Adapter

def inMemory : Adapter MemoryTree := ⟨MemoryTree.fileSystem, fun path tree => tree.addDir path⟩

def onDisk : Adapter DiskTree := ⟨DiskTree.fileSystem, fun path tree => tree.addDir path⟩

/-- Does a step, and tells whether it was accepted. -/
def perform (adapter : Adapter τ) (tree : τ) : FileStep → Except FileError Unit × τ
  | .store names text => adapter.fileSystem.write (ofNames names) text tree
  | .makeDir names => (.ok (), adapter.makeDir (ofNames names) tree)

/-- The tree behind these steps. -/
def after (adapter : Adapter τ) (tree : τ) (steps : List FileStep) : τ :=
  steps.foldl (fun tree step => (adapter.perform tree step).2) tree

end Adapter

open Adapter (inMemory onDisk)

/-- Steps of which each one fits what is seen on the disk behind those before it. -/
def Fitting (tree : DiskTree) : List FileStep → Prop
  | [] => True
  | step :: rest =>
    step.Fits (onDisk.fileSystem.view tree) ∧ Fitting (onDisk.perform tree step).2 rest

/-! ### One layout, held twice -/

/-- Both trees hold one layout, the one on the disk below its working directory. -/
def Alike (memory : MemoryTree) (disk : DiskTree) : Prop :=
  ∃ base layout, layout.Closed ∧ memory.Holds layout ∧ disk.Holds base layout

section
variable {memory : MemoryTree} {disk : DiskTree}

/-- No file stands along names of which none is seen as one. -/
theorem clear_of_isFile (view : FileView) {layout : Layout} {names : List String}
    (hshows : ∀ above, above ≠ [] → above <+: names → Shows view layout above)
    (h : ∀ above, above ≠ [] → above <+: names → view.isFile (ofNames above) = false) :
    layout.Clear names := by
  intro above hne hpre text htext
  have hfile := (hshows above hne hpre).isFile.mpr ⟨text, htext⟩
  rw [h above hne hpre] at hfile
  cases hfile

/-- **Every step that fits** is accepted by both, and leaves one layout. -/
theorem Alike.perform (h : Alike memory disk) {step : FileStep} (hplain : PlainNames step.names)
    (hfits : step.Fits (onDisk.fileSystem.view disk)) :
    (inMemory.perform memory step).1 = .ok () ∧ (onDisk.perform disk step).1 = .ok () ∧
      Alike (inMemory.perform memory step).2 (onDisk.perform disk step).2 := by
  obtain ⟨base, layout, hclosed, hmemory, hdisk⟩ := h
  have hshows : ∀ above, above ≠ [] → above <+: step.names →
      Shows (onDisk.fileSystem.view disk) layout above := fun above hne hpre =>
    hdisk.shows hclosed (hplain.of_prefix hne hpre)
  have hne := hplain.notEmpty
  cases step with
  | store names text =>
    obtain ⟨hnoDir, hnoFile⟩ := hfits
    have hdir : layout names ≠ some .directory := fun hlayout => by
      rw [(hshows names hne List.prefix_rfl).isDir.mpr hlayout] at hnoDir
      cases hnoDir
    have hclear : layout.Clear names.dropLast := by
      refine clear_of_isFile (onDisk.fileSystem.view disk) (fun above hne' hpre => ?_)
        fun above hne' hpre => ?_
      · exact hshows above hne' (hpre.trans (List.dropLast_prefix names))
      · obtain ⟨hpre, hother⟩ := (Layout.prefix_dropLast_iff hne').mp hpre
        exact hnoFile above hne' hpre hother
    obtain ⟨after, hwrite, hafter⟩ := hdisk.write hclosed hplain hdir hclear text
    have hperform : onDisk.perform disk (.store names text) = (.ok (), after) := hwrite
    rw [hperform]
    exact ⟨rfl, rfl, base, _, hclosed.store hne hdir text,
      hmemory.addFile hne hplain.plain hdir hclear text, hafter⟩
  | makeDir names =>
    have hclear : layout.Clear names := clear_of_isFile _ hshows hfits
    exact ⟨rfl, rfl, base, _, hclosed.makeDir names, hmemory.addDir hne hplain.plain hclear,
      hdisk.addDir hclosed hplain hclear⟩

theorem Alike.sameSight (h : Alike memory disk) {names : List String} (hplain : PlainNames names) :
    SameSight (inMemory.fileSystem.view memory) (onDisk.fileSystem.view disk) names := by
  obtain ⟨base, layout, hclosed, hmemory, hdisk⟩ := h
  exact (hmemory.shows hplain.notEmpty hplain.plain).agree
    (fun above hne hpre => hdisk.shows hclosed (hplain.of_prefix hne hpre)) hplain.notEmpty

/-- **Whole runs**: every step is accepted by both, and one layout is left. -/
theorem Alike.after (h : Alike memory disk) {steps : List FileStep}
    (hplain : ∀ step ∈ steps, PlainNames step.names) (hfits : Fitting disk steps) :
    (∀ before step rest, steps = before ++ step :: rest →
      (inMemory.perform (inMemory.after memory before) step).1 = .ok () ∧
        (onDisk.perform (onDisk.after disk before) step).1 = .ok ()) ∧
      Alike (inMemory.after memory steps) (onDisk.after disk steps) := by
  induction steps generalizing memory disk with
  | nil => exact ⟨by simp, h⟩
  | cons first rest ih =>
    obtain ⟨hfirst, hrest⟩ := hfits
    obtain ⟨hmemory, hdisk, hnext⟩ := h.perform (hplain first List.mem_cons_self) hfirst
    obtain ⟨haccepted, hafter⟩ :=
      ih hnext (fun step hstep => hplain step (List.mem_cons_of_mem _ hstep)) hrest
    refine ⟨fun before step more hsplit => ?_, hafter⟩
    cases before with
    | nil =>
      obtain ⟨rfl, -⟩ := List.cons.inj hsplit
      exact ⟨hmemory, hdisk⟩
    | cons again before =>
      obtain ⟨rfl, hmore⟩ := List.cons.inj hsplit
      exact haccepted before step more hmore

end

/-! ### From nothing -/

/-- The working directory is there, and nothing is in it. -/
structure DiskTree.AtEmptyDirectory (tree : DiskTree) : Prop where
  stands : tree.isDirectoryAt tree.workingDirectory = true
  /-- No location has two entries. -/
  once : (tree.entries.map Prod.fst).Nodup
  empty : ∀ names, names ≠ [] → tree.get? (tree.workingDirectory ++ names) = none

theorem alike_empty {disk : DiskTree} (h : disk.AtEmptyDirectory) : Alike {} disk := by
  refine ⟨disk.workingDirectory, .empty, ?_, MemoryTree.holds_empty, rfl, ?_, h.once, ?_⟩
  · intro names name hsome
    exact absurd rfl hsome
  · exact of_decide_eq_true h.stands
  · exact h.empty

/-- **A tree in memory stands in for one on a disk.** Whatever is stored and made along plain
paths, starting with nothing and never working against what is there, both accept every step,
and behind the last one every plain path is seen in the same way. -/
theorem memory_stands_in {disk : DiskTree} (hempty : disk.AtEmptyDirectory) {steps : List FileStep}
    (hplain : ∀ step ∈ steps, PlainNames step.names) (hfits : Fitting disk steps) :
    (∀ before step rest, steps = before ++ step :: rest →
      (inMemory.perform (inMemory.after {} before) step).1 = .ok () ∧
        (onDisk.perform (onDisk.after disk before) step).1 = .ok ()) ∧
    ∀ names, PlainNames names →
      SameSight (inMemory.fileSystem.view (inMemory.after {} steps))
        (onDisk.fileSystem.view (onDisk.after disk steps)) names := by
  obtain ⟨haccepted, hafter⟩ := (alike_empty hempty).after hplain hfits
  exact ⟨haccepted, fun names hnames => hafter.sameSight hnames⟩

/-- A disk with one directory, which is empty. -/
def emptyDisk : DiskTree := { entries := [(["w"], .directory)], workingDirectory := ["w"] }

/-- A file that is stored twice, below a directory that is made only then. -/
def someSteps : List FileStep :=
  [.store ["p", "a.md"] "x", .makeDir ["p", "q"], .store ["p", "a.md"] "y"]

/-- The names above a path, the path itself among them. -/
theorem forall_prefix_iff {names : List String} {p : List String → Prop} :
    (∀ above, above ≠ [] → above <+: names → p above) ↔
      ∀ above ∈ names.inits, above ≠ [] → p above := by
  simp only [List.mem_inits]
  exact ⟨fun h above hpre hne => h above hne hpre, fun h above hne hpre => h above hpre hne⟩

theorem atEmptyDirectory_emptyDisk : emptyDisk.AtEmptyDirectory where
  stands := by decide +kernel
  once := by decide +kernel
  empty names hne := by
    have hsome : names.isEmpty = false := by simpa using hne
    simp [emptyDisk, DiskTree.get?, List.lookup_cons, hsome]

theorem memory_stands_in_someSteps :
    emptyDisk.AtEmptyDirectory ∧ (∀ step ∈ someSteps, PlainNames step.names) ∧
      Fitting emptyDisk someSteps ∧
      (onDisk.perform (onDisk.after emptyDisk [.store ["p", "a.md"] "x", .makeDir ["p", "q"]])
        (.store ["p", "a.md"] "y")).1 = .ok () ∧
      SameSight (inMemory.fileSystem.view (inMemory.after {} someSteps))
        (onDisk.fileSystem.view (onDisk.after emptyDisk someSteps)) ["p"] := by
  have hplain : ∀ step ∈ someSteps, PlainNames step.names := by decide +kernel
  have hfits : Fitting emptyDisk someSteps := by
    simp only [someSteps, Fitting, FileStep.Fits, forall_prefix_iff]
    decide +kernel
  obtain ⟨haccepted, hsame⟩ := memory_stands_in atEmptyDirectory_emptyDisk hplain hfits
  obtain ⟨-, hstore⟩ :=
    haccepted [.store ["p", "a.md"] "x", .makeDir ["p", "q"]] (.store ["p", "a.md"] "y") [] rfl
  exact ⟨atEmptyDirectory_emptyDisk, hplain, hfits, hstore, hsame ["p"] (by decide +kernel)⟩

end Promptbook
