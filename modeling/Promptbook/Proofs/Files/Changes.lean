import Promptbook.Proofs.Files.InMemory
import Promptbook.Proofs.Files.Joining

/-! What changes do to a tree in memory.

Any paths may be given, relative or not and with `..` in them: a tree knows them by their components
(`stored`), and what it says of a path follows from which of these have the path's components in
front. So a path leads to a file or a directory exactly if it stands in front of something stored
(`found_iff`), and the names in a directory are the steps that lead on (`mem_children_iff`). Storing a
file adds one such path, and with it the directories above (`isDir_addFile`). `changes_laws` says all
this of the tree behind any changes, and of its files that they hold what was stored last. -/
namespace Promptbook.MemoryTree
open Promptbook.Path (Component)

/-! ### Names of entries -/

/-- A name that is one step of a path. -/
structure EntryName (name : String) : Prop where
  notEmpty : name ≠ ""
  notHere : name ≠ "."
  notParent : name ≠ ".."
  noSeparator : '/' ∉ name.toList

section
variable {name : String}

theorem EntryName.components (h : EntryName name) : (⟨name⟩ : Path).components = [.name name] := by
  have hnil : name.toList ≠ [] := fun heq => h.notEmpty (String.toList_inj.mp heq)
  have hhere : name.toList ≠ ['.'] := fun heq => h.notHere (String.toList_inj.mp heq)
  have hparent : name.toList ≠ ['.', '.'] := fun heq => h.notParent (String.toList_inj.mp heq)
  have hroot : name.toList.head? ≠ some '/' := fun heq => h.noSeparator (List.mem_of_head? heq)
  rw [Path.components_eq, Path.opening, Path.steps, segments_of_no_separator h.noSeparator]
  simp [Component.ofSegment?, hnil, hhere, hparent, hroot]

theorem EntryName.isAbsolute (h : EntryName name) : (⟨name⟩ : Path).isAbsolute = false :=
  decide_eq_false fun heq => h.noSeparator (List.mem_of_head? heq)

/-- A step that is shown as such a name is a step into it. -/
theorem EntryName.text_iff (h : EntryName name) {step : Component} :
    step.text = name ↔ step = .name name := by
  constructor
  · rintro rfl
    cases step with
    | root => exact absurd (by decide) h.noSeparator
    | here => exact absurd rfl h.notHere
    | parent => exact absurd rfl h.notParent
    | name text => rfl
  · rintro rfl
    rfl

/-- The components of an entry are those of its directory and its name. -/
theorem components_entry (h : EntryName name) (path : Path) :
    (path.join ⟨name⟩).components = path.components ++ [.name name] := by
  by_cases hempty : path.text = ""
  · have hnone : path.components = [] := by
      rw [Path.components_eq, hempty]
      rfl
    rw [Path.join_of_empty hempty, hnone, h.components, List.nil_append]
  · rw [Path.components_join hempty h.isAbsolute, h.components]
    simp

end

/-! ### What is there -/

section
variable (tree : MemoryTree) (path : Path)

/-- The paths under which something is stored, files and added directories. -/
def stored : List (List Component) := tree.files.map Prod.fst ++ tree.dirs

theorem isFile_iff : tree.isFile path = true ↔ path.components ∈ tree.files.map Prod.fst :=
  isSome_lookup

theorem isDir_iff :
    tree.isDir path = true ↔
      (∃ dir ∈ tree.dirs, path.components <+: dir) ∨
        ∃ file ∈ tree.files.map Prod.fst, file ≠ path.components ∧ path.components <+: file := by
  simp only [isDir, Bool.or_eq_true, List.any_eq_true, Bool.and_eq_true, decide_eq_true_eq,
    List.isPrefixOf_iff_prefix, List.mem_map, exists_exists_and_eq_and]

/-- **Something is found** where a stored path leads to or through. -/
theorem found_iff :
    tree.isFile path = true ∨ tree.isDir path = true ↔
      ∃ other ∈ tree.stored, path.components <+: other := by
  rw [isFile_iff, isDir_iff]
  constructor
  · rintro (hfile | ⟨dir, hdir, hpre⟩ | ⟨file, hfile, -, hpre⟩)
    · exact ⟨_, List.mem_append_left _ hfile, List.prefix_rfl⟩
    · exact ⟨dir, List.mem_append_right _ hdir, hpre⟩
    · exact ⟨file, List.mem_append_left _ hfile, hpre⟩
  · rintro ⟨other, hother, hpre⟩
    rcases List.mem_append.mp hother with hfile | hdir
    · by_cases heq : other = path.components
      · exact .inl (heq ▸ hfile)
      · exact .inr (.inr ⟨other, hfile, heq, hpre⟩)
    · exact .inr (.inl ⟨other, hdir, hpre⟩)

/-- The step behind a directory on the way to something stored. -/
theorem head?_below_iff {directory other : List Component} {step : Component} :
    (Path.stepsBelow directory other).bind List.head? = some step ↔
      directory ++ [step] <+: other := by
  constructor
  · intro h
    obtain ⟨rest, hbelow, hstep⟩ := Option.bind_eq_some_iff.mp h
    obtain ⟨more, rfl⟩ := List.head?_eq_some_iff.mp hstep
    obtain ⟨hpre, hdrop⟩ := Option.ite_none_right_eq_some.mp hbelow
    obtain ⟨behind, rfl⟩ := List.isPrefixOf_iff_prefix.mp hpre
    rw [List.drop_left, Option.some.injEq] at hdrop
    exact ⟨more, by simp [hdrop]⟩
  · rintro ⟨more, rfl⟩
    rw [List.append_assoc, Path.stepsBelow_append]
    rfl

/-- **The names in a directory** are those of what is found in it. -/
theorem mem_children_iff {name : String} (h : EntryName name) :
    name ∈ tree.children path ↔
      tree.isFile (path.join ⟨name⟩) = true ∨ tree.isDir (path.join ⟨name⟩) = true := by
  have hname (other : List Component) :
      ((Path.stepsBelow path.components other).bind fun rest => rest.head?.map Component.text) =
          some name ↔ path.components ++ [.name name] <+: other := by
    have hmap : ((Path.stepsBelow path.components other).bind fun rest =>
        rest.head?.map Component.text) =
          ((Path.stepsBelow path.components other).bind List.head?).map Component.text :=
      Option.map_bind.symm
    rw [← head?_below_iff, hmap, Option.map_eq_some_iff]
    simp only [h.text_iff, exists_eq_right]
  rw [found_iff, components_entry h, children, mem_distinct, List.mem_filterMap]
  simp only [hname, stored]

theorem list_of_isFile (h : tree.isFile path = true) :
    tree.list path = .error (.notDirectory path) := by
  rw [list, if_pos h]

theorem list_of_isDir (hfile : tree.isFile path = false) (h : tree.isDir path = true) :
    tree.list path = .ok (tree.children path) := by
  simp [list, hfile, h]

theorem list_of_none (hfile : tree.isFile path = false) (h : tree.isDir path = false) :
    tree.list path = .error (.notFound path) := by
  simp [list, hfile, h]

/-! ### Storing a file -/

theorem isFile_addFile (text : String) {other : Path} (h : other.components ≠ path.components) :
    (tree.addFile path text).isFile other = tree.isFile other := by
  rw [isFile, isFile, file?_addFile, if_neg h]

theorem read_addFile (text : String) {other : Path} (h : other.components ≠ path.components) :
    (tree.addFile path text).read other = tree.read other := by
  rw [read, read, file?_addFile, if_neg h]

/-- **A file that is stored** makes directories of the paths above it, and of no other. -/
theorem isDir_addFile (text : String) (other : Path) :
    (tree.addFile path text).isDir other = true ↔
      tree.isDir other = true ∨
        other.components <+: path.components ∧ other.components ≠ path.components := by
  have hfiles (file : List Component) :
      file ∈ (tree.addFile path text).files.map Prod.fst ↔
        file = path.components ∨ file ∈ tree.files.map Prod.fst := by
    rw [← isSome_lookup, ← isSome_lookup, addFile, lookup_putFile]
    split <;> simp_all
  rw [isDir_iff, isDir_iff]
  simp only [hfiles]
  constructor
  · rintro (hdir | ⟨file, rfl | hfile, hne, hpre⟩)
    · exact .inl (.inl hdir)
    · exact .inr ⟨hpre, Ne.symm hne⟩
    · exact .inl (.inr ⟨file, hfile, hne, hpre⟩)
  · rintro ((hdir | ⟨file, hfile, hne, hpre⟩) | ⟨hpre, hne⟩)
    · exact .inl hdir
    · exact .inr ⟨file, .inr hfile, hne, hpre⟩
    · exact .inr ⟨path.components, .inl rfl, Ne.symm hne, hpre⟩

end

/-! ### Changes -/

/-- What is done to a tree. -/
inductive Change where
  | addFile (path : Path) (text : String)
  | addDir (path : Path)
  | write (path : Path) (text : String)

/-- The text that a change stores under a path, however that is spelled. -/
def Change.text? (path : Path) : Change → Option String
  | .addFile other text => if path.components = other.components then some text else none
  | .addDir _ => none
  | .write other text => if path.components = other.components then some text else none

def change (tree : MemoryTree) : Change → MemoryTree
  | .addFile path text => tree.addFile path text
  | .addDir path => tree.addDir path
  | .write path text => (fileSystem.write path text tree).2

/-- The tree behind these changes. -/
def behind (changes : List Change) : MemoryTree := changes.foldl change {}

theorem file?_change (tree : MemoryTree) (c : Change) (path : Path) :
    (tree.change c).file? path = (c.text? path).or (tree.file? path) := by
  have hput (other : Path) (text : String) : (tree.addFile other text).file? path =
      (if path.components = other.components then some text else none).or (tree.file? path) := by
    rw [file?_addFile]
    split <;> rfl
  cases c with
  | addFile other text => exact hput other text
  | addDir other =>
    rw [change, file?, files_addDir]
    rfl
  | write other text => exact hput other text

/-- **What is stored under a path** is what was stored there last. -/
theorem file?_behind (changes : List Change) (path : Path) :
    (behind changes).file? path = (changes.filterMap (Change.text? path)).getLast? := by
  induction changes using List.reverseRecOn with
  | nil => rfl
  | append_singleton changes c ih =>
    have hlast : ([c].filterMap (Change.text? path)).getLast? = c.text? path := by
      cases h : c.text? path <;> simp [h]
    have hconcat : behind (changes ++ [c]) = (behind changes).change c := List.foldl_concat ..
    rw [hconcat, file?_change, ih, List.filterMap_append, List.getLast?_append, hlast]

/-- **What changes leave behind.** A path is read as what was stored there last, and not found if
nothing was. A directory that is no file is listed, and nothing else; no name is listed twice, and
a name is listed exactly if a file or a directory is found under it. A file that is stored next
changes what is read, and what is a file, at its own path alone; the paths above it, the empty one
among them, become directories, and no other path does. -/
theorem changes_laws (changes : List Change) :
    (∀ path, (behind changes).read path =
      (changes.filterMap (Change.text? path)).getLast?.elim (.error (.notFound path)) .ok) ∧
    (∀ path,
      ((behind changes).isFile path = true →
        (behind changes).list path = .error (.notDirectory path)) ∧
      ((behind changes).isFile path = false → (behind changes).isDir path = false →
        (behind changes).list path = .error (.notFound path)) ∧
      ((behind changes).isFile path = false → (behind changes).isDir path = true →
        ∃ names, (behind changes).list path = .ok names ∧ names.Nodup ∧
          ∀ name, EntryName name → (name ∈ names ↔
            (behind changes).isFile (path.join ⟨name⟩) = true ∨
              (behind changes).isDir (path.join ⟨name⟩) = true))) ∧
    ∀ path text, ∀ next ∈ [Change.addFile path text, .write path text], ∀ other,
      (other.components ≠ path.components →
        (behind (changes ++ [next])).read other = (behind changes).read other ∧
        (behind (changes ++ [next])).isFile other = (behind changes).isFile other) ∧
      ((behind (changes ++ [next])).isDir other = true ↔
        (behind changes).isDir other = true ∨
          other.components <+: path.components ∧ other.components ≠ path.components) := by
  refine ⟨fun path => ?_, fun path => ⟨list_of_isFile _ path, list_of_none _ path, ?_⟩, ?_⟩
  · rw [read, file?_behind]
    cases (changes.filterMap (Change.text? path)).getLast? <;> rfl
  · intro hfile hdir
    exact ⟨_, list_of_isDir _ path hfile hdir, nodup_distinct _,
      fun name => mem_children_iff _ path⟩
  · intro path text next hnext other
    have hadded : behind (changes ++ [next]) = (behind changes).addFile path text := by
      rw [behind, List.foldl_concat]
      simp only [List.mem_cons, List.not_mem_nil, or_false] at hnext
      rcases hnext with rfl | rfl <;> rfl
    rw [hadded]
    exact ⟨fun hother => ⟨read_addFile _ path text hother, isFile_addFile _ path text hother⟩,
      isDir_addFile _ path text other⟩

/-- A name stands for all that lies below it. -/
example :
    (behind [.addFile ⟨"/root/prompts/code/review.md"⟩ "x", .write ⟨"/root//prompts/chat.md"⟩ "y",
      .addDir ⟨"/root/prompts/code/old"⟩]).list ⟨"/root/prompts/"⟩ = .ok ["chat.md", "code"] := by
  decide +kernel

end Promptbook.MemoryTree
