import Mathlib.Data.List.Induction
import Promptbook.Proofs.Files.PlainPath

/-! What lies below one directory.

A layout tells what names lead to, and everything in it lies in a directory (`Closed`). Two
things are done to it: a directory is made, and what is missing above it with it (`makeDir`),
and a file is stored, with the directories above it (`store`). Both keep it closed, as long as
they do not work against what is there.

A file system that shows a layout (`Shows`) tells all of it, but for the order of names and for
what it says of reading what cannot be read; two that show one layout agree (`Shows.agree`). -/
namespace Promptbook

/-- What names lead to. -/
inductive Entry where
  | directory
  | file (text : String)
  deriving DecidableEq

/-- What lies below a directory, by the names that lead there from it. -/
abbrev Layout := List String → Option Entry

namespace Layout
variable {layout : Layout} {names : List String}

def empty : Layout := fun _ => none

/-- The layout with one more entry, in place of what was there. -/
def put (layout : Layout) (names : List String) (entry : Entry) : Layout := fun other =>
  if other = names then some entry else layout other

/-- The layout with directories all the way along these names. -/
def makeDir (layout : Layout) (names : List String) : Layout := fun other =>
  if other ≠ [] ∧ other <+: names then some .directory else layout other

/-- The layout with a file, and with directories all the way to it. -/
def store (layout : Layout) (names : List String) (text : String) : Layout :=
  (layout.makeDir names.dropLast).put names (.file text)

/-- Whether names lead to a directory; without any they lead to the one that all lies in. -/
def Enters (layout : Layout) (names : List String) : Prop :=
  names = [] ∨ layout names = some .directory

/-- Nothing lies in what is no directory. -/
def Closed (layout : Layout) : Prop :=
  ∀ names name, layout (names ++ [name]) ≠ none → layout.Enters names

/-- No file stands anywhere along these names. -/
def Clear (layout : Layout) (names : List String) : Prop :=
  ∀ other, other ≠ [] → other <+: names → ∀ text, layout other ≠ some (.file text)

/-! ### Above an entry -/

/-- What is there along names that lead to something are directories. -/
theorem Closed.above (h : layout.Closed) (hnames : layout names ≠ none) {other : List String}
    (hne : other ≠ []) (hpre : other <+: names) (hother : other ≠ names) :
    layout other = some .directory := by
  induction names using List.reverseRecOn with
  | nil => exact absurd (List.prefix_nil.mp hpre) hne
  | append_singleton init name ih =>
    obtain rfl | hinit := (List.prefix_concat_iff.mp hpre)
    · exact absurd rfl hother
    have hnil : init ≠ [] := by
      rintro rfl
      exact hne (List.prefix_nil.mp hinit)
    have hdir := (h init name hnames).resolve_left hnil
    by_cases heq : other = init
    · rw [heq, hdir]
    · exact ih (by simp [hdir]) hinit heq

theorem Clear.of_prefix {other : List String} (h : layout.Clear names) (hpre : other <+: names) :
    layout.Clear other := fun above hne habove => h above hne (habove.trans hpre)

/-- Where no file stands there is a directory, or nothing. -/
theorem Clear.enters_or_none (h : layout.Clear names) :
    layout.Enters names ∨ names ≠ [] ∧ layout names = none := by
  by_cases hne : names = []
  · exact .inl (.inl hne)
  · cases hentry : layout names with
    | none => exact .inr ⟨hne, rfl⟩
    | some entry =>
      cases entry with
      | directory => exact .inl (.inr hentry)
      | file text => exact absurd hentry (h names hne List.prefix_rfl text)

/-! ### Making directories -/

@[simp] theorem makeDir_nil (layout : Layout) : layout.makeDir [] = layout := by
  funext other
  simp only [makeDir, List.prefix_nil]
  rw [if_neg fun h => h.1 h.2]

/-- Directories are made from the top. -/
theorem makeDir_concat (layout : Layout) (init : List String) (name : String) :
    layout.makeDir (init ++ [name]) = (layout.makeDir init).put (init ++ [name]) .directory := by
  funext other
  by_cases heq : other = init ++ [name]
  · simp [makeDir, put, heq]
  · simp only [makeDir, put, List.prefix_concat_iff, heq, false_or, if_false]

/-- Nothing changes where a directory is already. -/
theorem makeDir_of_directory (h : layout.Closed) (hnames : layout names = some .directory) :
    layout.makeDir names = layout := by
  funext other
  rw [makeDir]
  split
  · next hother =>
    by_cases heq : other = names
    · rw [heq, hnames]
    · rw [h.above (by simp [hnames]) hother.1 hother.2 heq]
  · rfl

theorem makeDir_of_enters (h : layout.Closed) (hnames : layout.Enters names) :
    layout.makeDir names = layout := by
  rcases hnames with rfl | hdir
  · exact makeDir_nil layout
  · exact makeDir_of_directory h hdir

theorem enters_makeDir (layout : Layout) (names : List String) :
    (layout.makeDir names).Enters names := by
  by_cases hne : names = []
  · exact .inl hne
  · exact .inr (by simp [makeDir, hne])

/-- An entry may be put into a directory, if it hides nothing. -/
theorem Closed.put (h : layout.Closed) {entry : Entry} (habove : layout.Enters names.dropLast)
    (hentry : entry = .directory ∨ layout names ≠ some .directory) :
    (layout.put names entry).Closed := by
  intro init name hinit
  rw [Layout.put] at hinit
  by_cases heq : init ++ [name] = names
  · obtain rfl : names.dropLast = init := by rw [← heq, List.dropLast_concat]
    refine habove.imp_right fun hdir => ?_
    rw [Layout.put, if_neg, hdir]
    intro hself
    have hlength := congrArg List.length (heq.trans hself.symm)
    simp at hlength
  · rw [if_neg heq] at hinit
    refine (h init name hinit).imp_right fun hdir => ?_
    rw [Layout.put]
    split
    · next hself =>
      subst hself
      rcases hentry with rfl | hentry
      · rfl
      · exact absurd hdir hentry
    · exact hdir

theorem Closed.makeDir (h : layout.Closed) (names : List String) :
    (layout.makeDir names).Closed := by
  induction names using List.reverseRecOn with
  | nil => rwa [makeDir_nil]
  | append_singleton init name ih =>
    rw [makeDir_concat]
    refine ih.put ?_ (.inl rfl)
    rw [List.dropLast_concat]
    exact enters_makeDir layout init

theorem makeDir_apply {other : List String} (hne : other ≠ []) :
    layout.makeDir names other = if other <+: names then some .directory else layout other := by
  simp [makeDir, hne]

/-- Below the directories that are made everything stays. -/
theorem makeDir_concat_self (layout : Layout) (init : List String) (last : String) :
    layout.makeDir init (init ++ [last]) = layout (init ++ [last]) := by
  rw [makeDir_apply (by simp), if_neg]
  intro hpre
  exact absurd hpre.length_le (by simp)

/-! ### Storing files -/

theorem prefix_dropLast_iff {other : List String} (hne : other ≠ []) :
    other <+: names.dropLast ↔ other <+: names ∧ other ≠ names := by
  rcases List.eq_nil_or_concat names with rfl | ⟨init, last, rfl⟩
  · simp [hne]
  · rw [List.concat_eq_append, List.dropLast_concat, List.prefix_concat_iff]
    constructor
    · intro hpre
      refine ⟨.inr hpre, ?_⟩
      rintro rfl
      exact absurd hpre.length_le (by simp)
    · rintro ⟨heq | hpre, hother⟩
      · exact absurd heq hother
      · exact hpre

theorem store_apply {other : List String} (hne : other ≠ []) (text : String) :
    layout.store names text other =
      if other = names then some (.file text)
      else if other <+: names then some .directory else layout other := by
  rw [store, put]
  split
  · rfl
  · next hother => simp [makeDir_apply hne, prefix_dropLast_iff hne, hother]

theorem Closed.store (h : layout.Closed) (hne : names ≠ []) (hdir : layout names ≠ some .directory)
    (text : String) : (layout.store names text).Closed := by
  refine (h.makeDir names.dropLast).put (enters_makeDir layout _) (.inr ?_)
  rw [makeDir_apply hne, if_neg fun hpre => ((prefix_dropLast_iff hne).mp hpre).2 rfl]
  exact hdir

end Layout

theorem isSome_lookup [BEq α] [LawfulBEq α] {entries : List (α × β)} {key : α} :
    (entries.lookup key).isSome ↔ key ∈ entries.map Prod.fst := by
  rw [List.lookup_isSome_iff, List.mem_map]
  exact exists_congr fun entry => and_congr_right fun _ => beq_iff_eq.trans eq_comm

/-! ### What is seen of a layout -/

/-- What a view tells of the path along these names is what the layout holds there. -/
structure Shows (view : FileView) (layout : Layout) (names : List String) : Prop where
  isDir : view.isDir (Path.ofNames names) = true ↔ layout names = some .directory
  isFile : view.isFile (Path.ofNames names) = true ↔ ∃ text, layout names = some (.file text)
  list : layout names = some .directory →
    ∃ entries, view.list (Path.ofNames names) = .ok entries ∧ entries.Nodup ∧
      ∀ name, name ∈ entries ↔ layout (names ++ [name]) ≠ none
  listFile : ∀ text, layout names = some (.file text) →
    view.list (Path.ofNames names) = .error (.notDirectory (Path.ofNames names))
  listNone : layout names = none →
    view.list (Path.ofNames names) = .error (.notFound (Path.ofNames names))
  read : ∀ text, layout names = some (.file text) → view.read (Path.ofNames names) = .ok text
  readNone : layout names = none → layout.Clear names →
    view.read (Path.ofNames names) = .error (.notFound (Path.ofNames names))

/-- Two views of a path: the same kind of entry, the same names in any order or the same failure,
and the same text, or none, where there is no directory and no file on the way. -/
structure SameSight (view other : FileView) (names : List String) : Prop where
  isDir : view.isDir (Path.ofNames names) = other.isDir (Path.ofNames names)
  isFile : view.isFile (Path.ofNames names) = other.isFile (Path.ofNames names)
  list : (∃ error, view.list (Path.ofNames names) = .error error ∧
      other.list (Path.ofNames names) = .error error) ∨
    ∃ entries entries', view.list (Path.ofNames names) = .ok entries ∧
      other.list (Path.ofNames names) = .ok entries' ∧ entries.Perm entries'
  read : other.isDir (Path.ofNames names) = false →
    (∀ above, above ≠ [] → above <+: names → above ≠ names →
      other.isFile (Path.ofNames above) = false) →
    (∃ text, view.read (Path.ofNames names) = .ok text ∧
      other.read (Path.ofNames names) = .ok text) ∨
    view.read (Path.ofNames names) = .error (.notFound (Path.ofNames names)) ∧
      other.read (Path.ofNames names) = .error (.notFound (Path.ofNames names))

/-- **Views of one layout agree.** -/
theorem Shows.agree {view other : FileView} {layout : Layout} {names : List String}
    (hview : Shows view layout names)
    (hother : ∀ above, above ≠ [] → above <+: names → Shows other layout above)
    (hne : names ≠ []) : SameSight view other names := by
  have hself := hother names hne List.prefix_rfl
  constructor
  · rw [Bool.eq_iff_iff, hview.isDir, hself.isDir]
  · rw [Bool.eq_iff_iff, hview.isFile, hself.isFile]
  · cases hlayout : layout names with
    | none => exact .inl ⟨_, hview.listNone hlayout, hself.listNone hlayout⟩
    | some entry =>
      cases entry with
      | file text => exact .inl ⟨_, hview.listFile text hlayout, hself.listFile text hlayout⟩
      | directory =>
        obtain ⟨entries, hlist, hnodup, hmem⟩ := hview.list hlayout
        obtain ⟨entries', hlist', hnodup', hmem'⟩ := hself.list hlayout
        refine .inr ⟨entries, entries', hlist, hlist', ?_⟩
        exact (List.perm_ext_iff_of_nodup hnodup hnodup').mpr fun name =>
          (hmem name).trans (hmem' name).symm
  · intro hdir habove
    cases hlayout : layout names with
    | none =>
      have hclear : layout.Clear names := by
        intro above hne' hpre text htext
        have hproper : above ≠ names := by
          rintro rfl
          rw [hlayout] at htext
          cases htext
        have hfile := (hother above hne' hpre).isFile.mpr ⟨text, htext⟩
        rw [habove above hne' hpre hproper] at hfile
        cases hfile
      exact .inr ⟨hview.readNone hlayout hclear, hself.readNone hlayout hclear⟩
    | some entry =>
      cases entry with
      | file text => exact .inl ⟨text, hview.read text hlayout, hself.read text hlayout⟩
      | directory =>
        rw [hself.isDir.mpr hlayout] at hdir
        cases hdir

end Promptbook
