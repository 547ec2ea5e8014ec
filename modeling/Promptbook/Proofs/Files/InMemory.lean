import Promptbook.Proofs.Files.Layout

/-! A layout in memory.

A tree in memory keeps files and added directories under their whole paths, and a directory is
what one of these has above it. Read so, it holds a layout (`Holds`): storing a file and adding
a directory do to the layout what they should (`Holds.addFile`, `Holds.addDir`), and what is seen
of the tree is seen of the layout. -/
namespace Promptbook.MemoryTree
open Promptbook.Path (Component ofNames named named_injective named_prefix_iff)

/-! ### Holding a layout -/

/-- Whether a file or an added directory lies below these names, or such a directory at them. -/
def HasBelow (tree : MemoryTree) (names : List String) : Prop :=
  (∃ dir, named dir ∈ tree.dirs ∧ names <+: dir) ∨
    ∃ file, (tree.files.lookup (named file)).isSome ∧ names <+: file ∧ names ≠ file

/-- All that the tree knows lies along names, and it is what the layout says. -/
structure Holds (tree : MemoryTree) (layout : Layout) : Prop where
  fileNames : ∀ entry ∈ tree.files, ∃ names, entry.1 = named names
  dirNames : ∀ dir ∈ tree.dirs, ∃ names, dir = named names
  file : ∀ names text, names ≠ [] →
    (tree.files.lookup (named names) = some text ↔ layout names = some (.file text))
  directory : ∀ names, names ≠ [] → (tree.HasBelow names ↔ layout names = some .directory)

theorem holds_empty : Holds {} Layout.empty where
  fileNames := nofun
  dirNames := nofun
  file names text _ := by simp [Layout.empty]
  directory names _ := by simp [HasBelow, Layout.empty]

section
variable {tree : MemoryTree} {layout : Layout} {names : List String}

theorem mem_putFile {path : List Component} {text : String}
    {files : List (List Component × String)} {entry : List Component × String}
    (h : entry ∈ putFile path text files) : entry = (path, text) ∨ entry ∈ files := by
  induction files with
  | nil => exact .inl (List.mem_singleton.mp h)
  | cons first rest ih =>
    rw [putFile] at h
    split at h
    · rcases List.mem_cons.mp h with h | h
      · exact .inl h
      · exact .inr (List.mem_cons_of_mem _ h)
    · split at h
      · exact List.mem_cons.mp h
      · rcases List.mem_cons.mp h with h | h
        · exact .inr (h ▸ List.mem_cons_self)
        · exact (ih h).imp_right (List.mem_cons_of_mem _)

theorem lookup_addFile (hpath : (ofNames names).components = named names) (text : String)
    (other : List String) :
    (tree.addFile (ofNames names) text).files.lookup (named other) =
      if other = names then some text else tree.files.lookup (named other) := by
  rw [addFile, hpath, lookup_putFile]
  simp only [named_injective.eq_iff]

theorem hasBelow_addFile (hpath : (ofNames names).components = named names) (text : String)
    (other : List String) :
    (tree.addFile (ofNames names) text).HasBelow other ↔
      tree.HasBelow other ∨ other <+: names ∧ other ≠ names := by
  have hlookup (file : List String) :
      ((tree.addFile (ofNames names) text).files.lookup (named file)).isSome ↔
        file = names ∨ (tree.files.lookup (named file)).isSome := by
    rw [lookup_addFile hpath]
    split <;> simp_all
  simp only [HasBelow, hlookup]
  constructor
  · rintro (hdir | ⟨file, rfl | hfile, hbelow⟩)
    · exact .inl (.inl hdir)
    · exact .inr hbelow
    · exact .inl (.inr ⟨file, hfile, hbelow⟩)
  · rintro ((hdir | ⟨file, hfile, hbelow⟩) | hbelow)
    · exact .inl hdir
    · exact .inr ⟨file, .inr hfile, hbelow⟩
    · exact .inr ⟨names, .inl rfl, hbelow⟩

/-- **Storing a file** stores it in the layout. -/
theorem Holds.addFile (h : Holds tree layout) (hne : names ≠ [])
    (hplain : ∀ name ∈ names, PlainName name) (hdir : layout names ≠ some .directory)
    (hclear : layout.Clear names.dropLast) (text : String) :
    Holds (tree.addFile (ofNames names) text) (layout.store names text) := by
  have hpath := components_ofNames hne hplain
  constructor
  · intro entry hentry
    rw [MemoryTree.addFile, hpath] at hentry
    rcases mem_putFile hentry with rfl | hentry
    · exact ⟨names, rfl⟩
    · exact h.fileNames entry hentry
  · exact h.dirNames
  · intro other stored hother
    rw [Layout.store_apply hother, lookup_addFile hpath]
    split
    · simp
    · next hnames =>
      rw [h.file other stored hother]
      split
      · next hpre =>
        have habove := (Layout.prefix_dropLast_iff hother).mpr ⟨hpre, hnames⟩
        simp [hclear other hother habove stored]
      · rfl
  · intro other hother
    rw [Layout.store_apply hother, hasBelow_addFile hpath, h.directory other hother]
    split
    · next hnames =>
      subst hnames
      simp [hdir]
    · next hnames =>
      split
      · next hpre => simp [hpre, hnames]
      · next hpre => simp [hpre]

theorem mem_dirs_addDir {path : Path} {dir : List Component} :
    dir ∈ (tree.addDir path).dirs ↔ dir ∈ tree.dirs ∨ dir = path.components := by
  rw [MemoryTree.addDir]
  split
  · next hmem =>
    rw [List.contains_iff_mem] at hmem
    exact ⟨.inl, fun h => h.elim id fun heq => heq ▸ hmem⟩
  · simp

theorem files_addDir (tree : MemoryTree) (path : Path) : (tree.addDir path).files = tree.files := by
  rw [MemoryTree.addDir]
  split <;> rfl

theorem hasBelow_addDir (hpath : (ofNames names).components = named names) (other : List String) :
    (tree.addDir (ofNames names)).HasBelow other ↔ tree.HasBelow other ∨ other <+: names := by
  simp only [HasBelow, mem_dirs_addDir, files_addDir, hpath, named_injective.eq_iff]
  constructor
  · rintro (⟨dir, hdir | rfl, hbelow⟩ | hfile)
    · exact .inl (.inl ⟨dir, hdir, hbelow⟩)
    · exact .inr hbelow
    · exact .inl (.inr hfile)
  · rintro ((⟨dir, hdir, hbelow⟩ | hfile) | hbelow)
    · exact .inl ⟨dir, .inl hdir, hbelow⟩
    · exact .inr hfile
    · exact .inl ⟨names, .inr rfl, hbelow⟩

/-- **Adding a directory** makes it in the layout. -/
theorem Holds.addDir (h : Holds tree layout) (hne : names ≠ [])
    (hplain : ∀ name ∈ names, PlainName name) (hclear : layout.Clear names) :
    Holds (tree.addDir (ofNames names)) (layout.makeDir names) := by
  have hpath := components_ofNames hne hplain
  constructor
  · rw [files_addDir]
    exact h.fileNames
  · intro dir hdir
    rcases mem_dirs_addDir.mp hdir with hdir | rfl
    · exact h.dirNames dir hdir
    · exact ⟨names, hpath⟩
  · intro other stored hother
    rw [files_addDir, h.file other stored hother, Layout.makeDir_apply hother]
    split
    · next hpre => simp [hclear other hother hpre stored]
    · rfl
  · intro other hother
    rw [hasBelow_addDir hpath, h.directory other hother, Layout.makeDir_apply hother]
    split
    · next hpre => simp [hpre]
    · next hpre => simp [hpre]

/-! ### What is seen -/

theorem Holds.isFile_iff (h : Holds tree layout) (hne : names ≠ [])
    (hpath : (ofNames names).components = named names) :
    tree.isFile (ofNames names) = true ↔ ∃ text, layout names = some (.file text) := by
  rw [isFile, file?, hpath, Option.isSome_iff_exists]
  exact exists_congr fun text => h.file names text hne

theorem Holds.isDir_iff (h : Holds tree layout) (hne : names ≠ [])
    (hpath : (ofNames names).components = named names) :
    tree.isDir (ofNames names) = true ↔ layout names = some .directory := by
  rw [← h.directory names hne, isDir, hpath, Bool.or_eq_true, List.any_eq_true, List.any_eq_true]
  refine or_congr ?_ ?_
  · constructor
    · rintro ⟨_, hmem, hpre⟩
      obtain ⟨dir, rfl⟩ := h.dirNames _ hmem
      exact ⟨dir, hmem, named_prefix_iff.mp (List.isPrefixOf_iff_prefix.mp hpre)⟩
    · rintro ⟨dir, hmem, hpre⟩
      exact ⟨_, hmem, List.isPrefixOf_iff_prefix.mpr (named_prefix_iff.mpr hpre)⟩
  · simp only [Bool.and_eq_true, decide_eq_true_eq, List.isPrefixOf_iff_prefix]
    constructor
    · rintro ⟨entry, hmem, hother, hpre⟩
      obtain ⟨file, hfile⟩ := h.fileNames entry hmem
      rw [hfile] at hother hpre
      refine ⟨file, isSome_lookup.mpr (hfile ▸ List.mem_map_of_mem hmem),
        named_prefix_iff.mp hpre, ?_⟩
      rintro rfl
      exact hother rfl
    · rintro ⟨file, hsome, hpre, hother⟩
      obtain ⟨entry, hmem, hfile⟩ := List.mem_map.mp (isSome_lookup.mp hsome)
      refine ⟨entry, hmem, ?_, hfile ▸ named_prefix_iff.mpr hpre⟩
      rw [hfile]
      exact fun heq => hother (named_injective heq).symm

/-- The first name behind a directory on the way to something below it. -/
theorem head?_stepsBelow_iff (names other : List String) (name : String) :
    ((Path.stepsBelow (named names) (named other)).bind fun rest =>
      rest.head?.map Component.text) = some name ↔ names ++ [name] <+: other := by
  by_cases hpre : names <+: other
  · obtain ⟨rest, rfl⟩ := hpre
    have hbelow : Path.stepsBelow (named names) (named (names ++ rest)) = some (named rest) := by
      have happend : named (names ++ rest) = named names ++ named rest := List.map_append
      rw [happend, Path.stepsBelow_append]
    rw [hbelow, List.prefix_append_right_inj]
    cases rest <;> simp [named, Component.text, eq_comm]
  · have hnone : Path.stepsBelow (named names) (named other) = none := by
      rw [Path.stepsBelow, if_neg]
      exact fun h => hpre (named_prefix_iff.mp (List.isPrefixOf_iff_prefix.mp h))
    rw [hnone]
    constructor
    · intro h
      cases h
    · intro hbelow
      exact absurd ((List.prefix_append names [name]).trans hbelow) hpre

theorem Holds.mem_children_iff (h : Holds tree layout)
    (hpath : (ofNames names).components = named names) (name : String) :
    name ∈ tree.children (ofNames names) ↔
      ∃ other, named other ∈ tree.files.map Prod.fst ++ tree.dirs ∧ names ++ [name] <+: other := by
  have hnamed : ∀ key ∈ tree.files.map Prod.fst ++ tree.dirs, ∃ other, key = named other := by
    intro key hkey
    rcases List.mem_append.mp hkey with hkey | hkey
    · obtain ⟨entry, hentry, rfl⟩ := List.mem_map.mp hkey
      exact h.fileNames entry hentry
    · exact h.dirNames key hkey
  rw [children, mem_distinct, List.mem_filterMap, hpath]
  constructor
  · rintro ⟨key, hkey, hname⟩
    obtain ⟨other, rfl⟩ := hnamed key hkey
    exact ⟨other, hkey, (head?_stepsBelow_iff names other name).mp hname⟩
  · rintro ⟨other, hkey, hbelow⟩
    exact ⟨_, hkey, (head?_stepsBelow_iff names other name).mpr hbelow⟩

/-- What is listed of a directory are the names that lead to something in it. -/
theorem Holds.mem_children (h : Holds tree layout)
    (hpath : (ofNames names).components = named names) (name : String) :
    name ∈ tree.children (ofNames names) ↔ layout (names ++ [name]) ≠ none := by
  have hne : names ++ [name] ≠ [] := by simp
  rw [h.mem_children_iff hpath]
  simp only [List.mem_append, ← isSome_lookup]
  constructor
  · rintro ⟨other, hfile | hdir, hbelow⟩
    · by_cases hother : names ++ [name] = other
      · obtain ⟨text, htext⟩ := Option.isSome_iff_exists.mp hfile
        rw [← hother] at htext
        simp [(h.file _ text hne).mp htext]
      · simp [(h.directory _ hne).mp (.inr ⟨other, hfile, hbelow, hother⟩)]
    · simp [(h.directory _ hne).mp (.inl ⟨other, hdir, hbelow⟩)]
  · intro hlayout
    obtain ⟨entry, hentry⟩ := Option.ne_none_iff_exists'.mp hlayout
    cases entry with
    | file text =>
      have hlookup := (h.file _ text hne).mpr hentry
      exact ⟨_, .inl (by simp [hlookup]), List.prefix_rfl⟩
    | directory =>
      rcases (h.directory _ hne).mpr hentry with ⟨dir, hdir, hbelow⟩ | ⟨file, hfile, hbelow, -⟩
      · exact ⟨dir, .inr hdir, hbelow⟩
      · exact ⟨file, .inl hfile, hbelow⟩

/-- **What is seen of a tree** is the layout that it holds. -/
theorem Holds.shows (h : Holds tree layout) (hne : names ≠ [])
    (hplain : ∀ name ∈ names, PlainName name) :
    Shows (fileSystem.view tree) layout names := by
  have hpath := components_ofNames hne hplain
  have hisFile := h.isFile_iff hne hpath
  have hisDir := h.isDir_iff hne hpath
  have hnoFile (hlayout : ∀ text, layout names ≠ some (.file text)) :
      tree.isFile (ofNames names) = false := by
    rw [Bool.eq_false_iff]
    intro hfile
    obtain ⟨text, htext⟩ := hisFile.mp hfile
    exact hlayout text htext
  constructor
  · exact hisDir
  · exact hisFile
  · intro hlayout
    refine ⟨tree.children (ofNames names), ?_, nodup_distinct _, h.mem_children hpath⟩
    simp [fileSystem, list, hnoFile (by simp [hlayout]), hisDir.mpr hlayout]
  · intro text hlayout
    simp [fileSystem, list, hisFile.mpr ⟨text, hlayout⟩]
  · intro hlayout
    have hnoDir : tree.isDir (ofNames names) = false := by
      rw [Bool.eq_false_iff, ne_eq, hisDir, hlayout]
      nofun
    simp [fileSystem, list, hnoFile (by simp [hlayout]), hnoDir]
  · intro text hlayout
    have htext : tree.file? (ofNames names) = some text := by
      rw [file?, hpath]
      exact (h.file names text hne).mpr hlayout
    simp [fileSystem, read, htext]
  · intro hlayout _
    have hnone : tree.file? (ofNames names) = none := by
      rw [← Option.isNone_iff_eq_none, ← Option.not_isSome, ← isFile, hnoFile (by simp [hlayout])]
      rfl
    simp [fileSystem, read, hnone]

end
end Promptbook.MemoryTree
