import Promptbook.Files.MemoryTree
import Promptbook.Proofs.Session.History
import Promptbook.Workspace.Loader

/-! What a session exports.

An export is offered the published prompts and then the dot prompt, and keeps those that came
from a file. Whatever ran, the dot prompt is not one of them (`Unsourced.afterAll`), and no run
touches the published prompts (`prompts_after_run`). So an export writes the published prompts
that came from a file, and runs before it change nothing (`export_afterAll`). -/
namespace Promptbook.Session
open Loader (exportTo)

/-- What an export is offered: the published prompts, and then the dot prompt. -/
def offered (session : Session) : List Prompt := session.prompts ++ session.dot.toList

/-! ### The dot prompt -/

/-- The dot prompt belongs to no file. -/
def Unsourced (session : Session) : Prop :=
  ∀ prompt, session.dot = some prompt → prompt.sourceFile = none

theorem unsourced_opened (start : Collection) : Unsourced (opened start) :=
  fun _ h => nomatch h

theorem Unsourced.after {session : Session} (h : Unsourced session) (step : Step) :
    Unsourced (session.after step) := by
  cases step with
  | publish prompts => exact h
  | setModel model => exact h
  | run demand asked =>
    cases hran : session.ran? demand asked with
    | none =>
      rw [after_run_of_ran?_none hran]
      exact h
    | some ran =>
      rw [(after_run_of_ran? hran).1]
      intro prompt hdot
      obtain rfl := Option.some.inj hdot
      rfl

theorem Unsourced.afterAll {session : Session} (h : Unsourced session) (steps : List Step) :
    Unsourced (session.afterAll steps) := by
  induction steps generalizing session with
  | nil => exact h
  | cons step rest ih => exact ih (h.after step)

/-- Only published prompts are kept of what is offered. -/
theorem Unsourced.filter_offered {session : Session} (h : Unsourced session) :
    session.offered.filter Prompt.isPersistable = session.prompts.filter (·.sourceFile.isSome) := by
  have hdot : session.dot.toList.filter Prompt.isPersistable = [] := by
    cases hd : session.dot with
    | none => rfl
    | some prompt => simp [Prompt.isPersistable, h prompt hd]
  rw [offered, List.filter_append, hdot, List.append_nil]
  rfl

/-! ### Runs -/

/-- Runs of these demands, one after another, each at its own source. -/
def asRuns (demands : List (Demand × Asked)) : List Step := demands.map fun d => .run d.1 d.2

theorem prompts_after_run (session : Session) (demand : Demand) (asked : Asked) :
    (session.after (.run demand asked)).prompts = session.prompts := by
  cases hran : session.ran? demand asked with
  | none => rw [after_run_of_ran?_none hran]
  | some ran =>
    rw [(after_run_of_ran? hran).1]
    rfl

/-- **Runs leave the published prompts alone.** -/
theorem prompts_afterAll_asRuns (session : Session) (demands : List (Demand × Asked)) :
    (session.afterAll (asRuns demands)).prompts = session.prompts := by
  induction demands generalizing session with
  | nil => rfl
  | cons d rest ih => exact (ih _).trans (prompts_after_run session d.1 d.2)

/-! ### Exports -/

/-- An export writes what is kept of the prompts that it is offered, and counts it. -/
theorem exportTo_eq (fileSystem : FileSystem τ) (path : Path) {prompts sourced : List Prompt}
    (h : prompts.filter Prompt.isPersistable = sourced) (tree : τ) :
    exportTo fileSystem path prompts tree =
      match fileSystem.write path (Template.writeAll sourced) tree with
      | (.ok (), tree) => (.ok sourced.length, tree)
      | (.error error, tree) => (.error (.file error), tree) := by
  rw [← h]
  rfl

/-- **Runs never change what is exported.** After any history, an export of the published
prompts and the dot prompt writes the published prompts that came from a file, in their order,
and counts them; in a tree in memory that is what is read back. Runs that follow, whatever they
run and however they end, leave all of this as it is. -/
theorem export_afterAll (start : Collection) (steps : List Step) (path : Path) :
    ∃ session sourced, session = (opened start).afterAll steps ∧
      sourced = session.prompts.filter (·.sourceFile.isSome) ∧
      (∀ τ (fileSystem : FileSystem τ) tree,
        exportTo fileSystem path session.offered tree =
          match fileSystem.write path (Template.writeAll sourced) tree with
          | (.ok (), tree) => (.ok sourced.length, tree)
          | (.error error, tree) => (.error (.file error), tree)) ∧
      (∀ tree, ∃ after,
        exportTo MemoryTree.fileSystem path session.offered tree = (.ok sourced.length, after) ∧
          after.read path = .ok (Template.writeAll sourced)) ∧
      ∀ demands τ (fileSystem : FileSystem τ) tree,
        exportTo fileSystem path ((opened start).afterAll (steps ++ asRuns demands)).offered tree =
          exportTo fileSystem path session.offered tree := by
  have hunsourced (steps : List Step) : Unsourced ((opened start).afterAll steps) :=
    (unsourced_opened start).afterAll steps
  have hsourced := (hunsourced steps).filter_offered
  refine ⟨_, _, rfl, rfl, ?_, ?_, ?_⟩
  · intro τ fileSystem tree
    exact exportTo_eq fileSystem path hsourced tree
  · intro tree
    refine ⟨_, exportTo_eq MemoryTree.fileSystem path hsourced tree, ?_⟩
    rw [MemoryTree.read, MemoryTree.file?_addFile, if_pos rfl]
  · intro demands τ fileSystem tree
    have hsame : ((opened start).afterAll (steps ++ asRuns demands)).offered.filter
        Prompt.isPersistable = _ := (hunsourced (steps ++ asRuns demands)).filter_offered
    rw [afterAll_append, prompts_afterAll_asRuns, ← afterAll_append] at hsame
    rw [exportTo_eq fileSystem path hsame, exportTo_eq fileSystem path hsourced]

end Promptbook.Session
