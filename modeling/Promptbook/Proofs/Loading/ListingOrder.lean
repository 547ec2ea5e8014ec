import Promptbook.Proofs.Loading.LeftOut

/-! The order of listings.

A file system lists the entries of a directory in whatever order it likes. Loading does not
depend on it: views that differ in nothing else (`Relisted`) are visited in the same way, since
names are sorted before anything is made of them, and every visit has the same outcome. So the
same prompts and the same failures are found, in the same order (`load_of_relisted`). -/
namespace Promptbook.Loader

/-- The same is seen, but for the order in which directories are listed. -/
structure Relisted (files other : FileView) : Prop where
  isDir : ∀ path, other.isDir path = files.isDir path
  isFile : ∀ path, other.isFile path = files.isFile path
  read : ∀ path, other.read path = files.read path
  /-- A directory cannot be listed for the same reason, or lists the same entries. -/
  list : ∀ dir,
    (∃ error, files.list dir = .error error ∧ other.list dir = .error error) ∨
    ∃ names names', files.list dir = .ok names ∧ other.list dir = .ok names' ∧ names'.Perm names

section
variable {files other : FileView}

/-- Such views agree everywhere: no path is left apart. -/
theorem Relisted.agreeBut (h : Relisted files other) (dirs : List Path) :
    AgreeBut (fun _ => false) dirs files other where
  isDir dir _ := h.isDir dir
  list dir _ := by
    refine (h.list dir).imp_right fun hnames => ?_
    obtain ⟨names, names', hlist, hlist', hperm⟩ := hnames
    exact ⟨names, names', hlist, hlist', hperm.filter _⟩
  isFile path _ := h.isFile path
  read path _ := h.read path

theorem avoids_none (visit : Visit) : visit.avoids (fun _ => false) = true := by
  cases visit <;> rfl

/-- **The same visits are made, in the same order.** -/
theorem Relisted.visits (h : Relisted files other) (wanted : String → Bool) (dirs : List Path) :
    Loader.visits other wanted dirs = Loader.visits files wanted dirs := by
  have hall (places : List Visit) : places.filter (Visit.avoids fun _ => false) = places :=
    List.filter_eq_self.mpr fun visit _ => avoids_none visit
  rw [← hall (Loader.visits other wanted dirs), ← hall (Loader.visits files wanted dirs)]
  exact (h.agreeBut dirs).visits wanted

theorem Relisted.outcome (h : Relisted files other) (rules : Template.Rules) (visit : Visit) :
    visit.outcome other rules = visit.outcome files rules :=
  (h.agreeBut []).outcome rules (avoids_none visit)

/-- **Loading does not depend on the order in which directories are listed**: the same prompts
and the same failures are found in the same order, or the same glob is refused. -/
theorem load_of_relisted (h : Relisted files other) (config : Config) :
    load other config = load files config := by
  cases hwanted : wanted? config.pattern with
  | error trouble => rw [load, load, hwanted]
  | ok wanted =>
    rw [load_of_wanted? hwanted, load_of_wanted? hwanted, h.visits]
    simp only [contents, failures, h.outcome]

end

/-- The mixed tree with every directory listed from the back. -/
def backwardsTree : FileView :=
  { mixedTree with list := fun dir => (mixedTree.list dir).map List.reverse }

/-- A configuration with both directories of the mixed tree. -/
def mixedConfig : Config := { Config.ofRoot ⟨""⟩ with templateDirs := [⟨"p"⟩, ⟨"q"⟩] }

theorem load_of_relisted_backwards :
    Relisted mixedTree backwardsTree ∧
    mixedTree.list ⟨"p"⟩ = .ok ["a.md", "b.md", "c.txt"] ∧
    backwardsTree.list ⟨"p"⟩ = .ok ["c.txt", "b.md", "a.md"] ∧
    ∃ report, load mixedTree mixedConfig = .ok report ∧
      load backwardsTree mixedConfig = .ok report := by
  have hbackwards : Relisted mixedTree backwardsTree := by
    refine ⟨fun _ => rfl, fun _ => rfl, fun _ => rfl, fun dir => ?_⟩
    cases hlist : mixedTree.list dir with
    | error error => exact .inl ⟨error, rfl, by simp [backwardsTree, hlist, Except.map]⟩
    | ok names =>
      exact .inr ⟨names, names.reverse, rfl, by simp [backwardsTree, hlist, Except.map],
        names.reverse_perm⟩
  have hwanted : wanted? mixedConfig.pattern =
      .ok (Glob.matchesTokens [.anyRow, .literal '.', .literal 'm', .literal 'd']) := rfl
  have hload := load_of_wanted? hwanted mixedTree
  exact ⟨hbackwards, by decide +kernel, by decide +kernel, _, hload,
    (load_of_relisted hbackwards mixedConfig).trans hload⟩

end Promptbook.Loader
