import Mathlib.Data.List.Sort
import Promptbook.Proofs.Files.Layout
import Promptbook.Proofs.Text.OctetOrder

/-! A layout on a disk.

Below its working directory a tree on a disk holds a layout entry by entry (`Holds`). Paths are
followed through directories, so how far names lead is told by the layout (`walk_of_some`,
`walk_of_none`), and so is what making a directory and storing a file come to: they succeed
where no file stands in the way, and do to the layout what they should (`makeDirs_named`,
`storeDeep_ofNames`). -/
namespace Promptbook

/-! ### Texts as octets -/

namespace Text

/-- A text is read back from its octets. -/
theorem decodeUtf8_encodeUtf8 (text : String) : decodeUtf8 (encodeUtf8 text) = .ok text := by
  have hbytes : ByteArray.mk (encodeUtf8 text).toArray = text.toByteArray := by
    rw [encodeUtf8, String.toUTF8_eq_toByteArray, ByteArray.toList, toList_loop]
    simp
  have htext : String.fromUTF8? text.toByteArray = some text := by
    rw [String.fromUTF8?, dif_pos text.isValidUTF8]
    rfl
  rw [decodeUtf8, hbytes, htext]

end Text

namespace DiskTree
open Promptbook.Path (Component ofNames named)

/-! ### Holding a layout -/

/-- An entry as it is kept on a disk. -/
def onDisk : Entry → DiskEntry
  | .directory => .directory
  | .file text => .file (Text.encodeUtf8 text)

/-- The working directory is this one, and below it lies the layout. -/
structure Holds (tree : DiskTree) (base : Location) (layout : Layout) : Prop where
  place : tree.workingDirectory = base
  stands : tree.get? base = some .directory
  once : (tree.entries.map Prod.fst).Nodup
  entry : ∀ names, names ≠ [] → tree.get? (base ++ names) = (layout names).map onDisk

section
variable {tree : DiskTree} {base : Location} {layout : Layout} {names : List String}

theorem keys_putEntry (location : Location) (entry : DiskEntry)
    (entries : List (Location × DiskEntry)) :
    (putEntry location entry entries).map Prod.fst =
      if location ∈ entries.map Prod.fst then entries.map Prod.fst
      else entries.map Prod.fst ++ [location] := by
  induction entries with
  | nil => simp [putEntry]
  | cons first rest ih =>
    rw [putEntry]
    split
    · next heq => simp [heq]
    · next hne =>
      rw [List.map_cons, ih]
      split
      · next hmem => simp [hmem]
      · next hmem => simp [hmem, Ne.symm hne]

theorem nodup_putEntry {entries : List (Location × DiskEntry)}
    (h : (entries.map Prod.fst).Nodup) (location : Location) (entry : DiskEntry) :
    ((putEntry location entry entries).map Prod.fst).Nodup := by
  rw [keys_putEntry]
  split
  · exact h
  · next hmem =>
    rw [List.nodup_append]
    exact ⟨h, List.nodup_singleton _, fun a ha b hb heq => hmem (by simp_all)⟩

/-- Something put on the disk is put into the layout. -/
theorem Holds.put (h : Holds tree base layout) (hne : names ≠ []) (entry : Entry) :
    Holds (tree.put (base ++ names) (onDisk entry)) base (layout.put names entry) := by
  have hroot : base ++ names ≠ [] := by simp [hne]
  constructor
  · exact h.place
  · have hself : base ≠ base ++ names := by simpa using hne
    rw [get?_put _ hroot, if_neg hself, h.stands]
  · exact nodup_putEntry h.once _ _
  · intro other hother
    rw [get?_put _ hroot, h.entry other hother, Layout.put]
    simp only [List.append_right_inj]
    split <;> rfl

theorem Holds.isDirectoryAt_iff (h : Holds tree base layout) (names : List String) :
    tree.isDirectoryAt (base ++ names) = true ↔ layout.Enters names := by
  rw [isDirectoryAt, decide_eq_true_iff, Layout.Enters]
  by_cases hne : names = []
  · simp [hne, h.stands]
  · rw [h.entry names hne]
    cases layout names with
    | none => simp [hne]
    | some entry => cases entry <;> simp [hne, onDisk]

/-! ### Following names -/

theorem walk_append (tree : DiskTree) (location : Location) (steps more : List Step) :
    tree.walk location (steps ++ more) =
      match tree.walk location steps with
      | .ok location => tree.walk location more
      | .error refusal => .error refusal := by
  induction steps generalizing location with
  | nil => rfl
  | cons step rest ih =>
    simp only [List.cons_append, walk]
    cases tree.isDirectoryAt location with
    | false => rfl
    | true =>
      cases step with
      | here => exact ih location
      | up => exact ih location.dropLast
      | into name =>
        by_cases hlong : name.utf8ByteSize > nameLimit
        · simp [hlong]
        · cases hget : tree.get? (location ++ [name]) <;> simp [hlong, hget, ih]

/-- One step into a directory. -/
theorem walk_into (tree : DiskTree) (location : Location) (name : String) :
    tree.walk location [.into name] =
      if tree.isDirectoryAt location then
        if name.utf8ByteSize > nameLimit then .error .nameTooLong
        else if (tree.get? (location ++ [name])).isNone then .error .notFound
        else .ok (location ++ [name])
      else .error .notDirectory := by
  simp only [walk]
  cases tree.isDirectoryAt location <;> rfl

/-! ### Names in a directory -/

/-- The last name of a location that lies directly below another. -/
def nameIn? (location other : Location) : Option String :=
  if other.dropLast = location then other.getLast? else none

theorem nameIn?_eq_some {location other : Location} {name : String} :
    nameIn? location other = some name ↔ other = location ++ [name] := by
  rw [nameIn?]
  rcases List.eq_nil_or_concat other with rfl | ⟨init, last, rfl⟩
  · simp
  · rw [List.concat_eq_append, List.dropLast_concat, List.getLast?_concat,
      List.append_singleton_inj]
    simp

theorem namesBelow_perm (tree : DiskTree) (location : Location) :
    (tree.namesBelow location).Perm ((tree.entries.map Prod.fst).filterMap (nameIn? location)) := by
  rw [List.filterMap_map]
  exact List.mergeSort_perm _ _

theorem mem_namesBelow {location : Location} {name : String} :
    name ∈ tree.namesBelow location ↔ (tree.entries.lookup (location ++ [name])).isSome := by
  simp only [(tree.namesBelow_perm location).mem_iff, List.mem_filterMap, nameIn?_eq_some,
    isSome_lookup, exists_eq_right]

/-- No name is listed twice. -/
theorem nodup_namesBelow (h : (tree.entries.map Prod.fst).Nodup) (location : Location) :
    (tree.namesBelow location).Nodup := by
  refine (tree.namesBelow_perm location).nodup_iff.mpr (h.filterMap fun a b name ha hb => ?_)
  rw [nameIn?_eq_some.mp ha, nameIn?_eq_some.mp hb]

/-! ### Routes along names -/

theorem routeOf_named (names : List String) : routeOf (named names) = along names := by
  have hsteps : (named names).filterMap Step.ofComponent? = names.map .into := by
    rw [named, List.filterMap_map, ← List.filterMap_eq_map]
    rfl
  rw [routeOf, hsteps, along]
  cases names <;> simp [named]

theorem reverse_named_concat (names : List String) (last : String) :
    (named (names ++ [last])).reverse = .name last :: (named names).reverse := by
  simp [named]

theorem routeOf_reverse (names : List String) (last : String) :
    routeOf (Component.name last :: (named names).reverse).reverse = along (names ++ [last]) := by
  rw [← reverse_named_concat, List.reverse_reverse, routeOf_named]

section
variable {after : DiskTree} {last : String}

/-- Making directories is done with the last, if it can be made. -/
theorem makeDirs_of_made (hmake : tree.makeDir (along (names ++ [last])) = .ok after) :
    tree.makeDirs (named (names ++ [last])).reverse = (.ok (), after) := by
  rw [reverse_named_concat, makeDirs]
  simp only [routeOf_reverse, hmake]

/-- It is done before it starts, if the last is there. -/
theorem makeDirs_of_exists (hmake : tree.makeDir (along (names ++ [last])) = .error .exists)
    (hends : tree.endsInDir (along (names ++ [last])) = true) :
    tree.makeDirs (named (names ++ [last])).reverse = (.ok (), tree) := by
  rw [reverse_named_concat, makeDirs]
  simp only [routeOf_reverse, hmake, hends, if_true]

/-- It starts with those above, if they are missing. -/
theorem makeDirs_of_missing {above : DiskTree}
    (hmake : tree.makeDir (along (names ++ [last])) = .error .notFound)
    (habove : tree.makeDirs (named names).reverse = (.ok (), above))
    (hlast : above.makeDir (along (names ++ [last])) = .ok after) :
    tree.makeDirs (named (names ++ [last])).reverse = (.ok (), after) := by
  rw [reverse_named_concat, makeDirs]
  simp only [routeOf_reverse, hmake, habove, hlast]

end

section
variable (h : Holds tree base layout) (hclosed : layout.Closed)
include h hclosed

/-- Names that lead to something can be followed. -/
theorem Holds.walk_of_some (hplain : ∀ name ∈ names, PlainName name)
    (hnames : names = [] ∨ layout names ≠ none) :
    tree.walk base (names.map .into) = .ok (base ++ names) := by
  induction names using List.reverseRecOn with
  | nil => simp [walk]
  | append_singleton init name ih =>
    have hsome : layout (init ++ [name]) ≠ none := hnames.resolve_left (by simp)
    have henters := hclosed init name hsome
    have hwalk := ih (fun other hother => hplain other (List.mem_append_left _ hother))
      (henters.imp_right fun hdir => by simp [hdir])
    have hshort := Nat.not_lt.mpr (hplain name (by simp)).short
    have hget : (tree.get? (base ++ init ++ [name])).isNone = false := by
      rw [List.append_assoc, h.entry _ (by simp)]
      cases hlayout : layout (init ++ [name]) with
      | none => exact absurd hlayout hsome
      | some entry => rfl
    rw [List.map_append, walk_append, hwalk]
    simp only [List.map_singleton]
    rw [walk_into, if_pos ((h.isDirectoryAt_iff init).mpr henters), if_neg hshort, hget]
    simp

/-- Names that lead to nothing cannot, and without a file on the way nothing is found. -/
theorem Holds.walk_of_none (hplain : ∀ name ∈ names, PlainName name) (hne : names ≠ [])
    (hnames : layout names = none) :
    ∃ refusal, tree.walk base (names.map .into) = .error refusal ∧
      (layout.Clear names → refusal = .notFound) := by
  induction names using List.reverseRecOn with
  | nil => exact absurd rfl hne
  | append_singleton init name ih =>
    have hinit := fun other hother => hplain other (List.mem_append_left [name] hother)
    rw [List.map_append, walk_append]
    by_cases hsome : init = [] ∨ layout init ≠ none
    · rw [h.walk_of_some hclosed hinit hsome]
      simp only [List.map_singleton]
      rw [walk_into]
      by_cases henters : layout.Enters init
      · have hshort := Nat.not_lt.mpr (hplain name (by simp)).short
        have hget : (tree.get? (base ++ init ++ [name])).isNone = true := by
          rw [List.append_assoc, h.entry _ (by simp), hnames]
          rfl
        rw [if_pos ((h.isDirectoryAt_iff init).mpr henters), if_neg hshort, hget]
        exact ⟨_, rfl, fun _ => rfl⟩
      · rw [if_neg fun hdir => henters ((h.isDirectoryAt_iff init).mp hdir)]
        refine ⟨_, rfl, fun hclear => ?_⟩
        -- what is there and no directory is a file, which is in the way
        rcases (hclear.of_prefix (List.prefix_append ..)).enters_or_none with
          henters' | ⟨hnil, hnone⟩
        · exact absurd henters' henters
        · exact absurd hnone (hsome.resolve_left hnil)
    · obtain ⟨hnil, hnone⟩ := not_or.mp hsome
      obtain ⟨refusal, hwalk, hclear⟩ := ih hinit hnil (not_not.mp hnone)
      rw [hwalk]
      exact ⟨refusal, rfl, fun h => hclear (h.of_prefix (List.prefix_append ..))⟩

/-! ### The last name -/

/-- The last name is looked for in the directory that the others lead to. -/
theorem Holds.lastStep_of_enters (hplain : ∀ name ∈ names, PlainName name)
    (henters : layout.Enters names) (last : String) :
    tree.lastStep (along (names ++ [last])) = .ok (base ++ names, some (.into last)) := by
  have hwalk := h.walk_of_some hclosed hplain (henters.imp_right fun hdir => by simp [hdir])
  have hdir := (h.isDirectoryAt_iff names).mpr henters
  simp [lastStep, along, start, h.place, hwalk, hdir, bind, Except.bind]

/-- There is no directory to look in where the others lead to nothing. -/
theorem Holds.lastStep_of_none (hplain : ∀ name ∈ names, PlainName name) (hne : names ≠ [])
    (hnames : layout names = none) (hclear : layout.Clear names) (last : String) :
    tree.lastStep (along (names ++ [last])) = .error .notFound := by
  obtain ⟨refusal, hwalk, hrefusal⟩ := h.walk_of_none hclosed hplain hne hnames
  rw [hrefusal hclear] at hwalk
  simp [lastStep, along, start, h.place, hwalk, bind, Except.bind]

/-! ### Making directories -/

/-- A directory is made in a directory, if nothing is there. -/
theorem Holds.makeDir_of_none (hplain : ∀ name ∈ names, PlainName name)
    (henters : layout.Enters names) {last : String} (hlast : PlainName last)
    (hnone : layout (names ++ [last]) = none) :
    tree.makeDir (along (names ++ [last])) =
      .ok (tree.put (base ++ (names ++ [last])) .directory) := by
  have hget : tree.get? (base ++ (names ++ [last])) = none := by
    rw [h.entry _ (by simp), hnone]
    rfl
  have hshort := Nat.not_lt.mpr hlast.short
  rw [makeDir, h.lastStep_of_enters hclosed hplain henters]
  simp [bind, Except.bind, hget, hshort]

/-- A directory is not made where one is. -/
theorem Holds.makeDir_of_directory (hplain : ∀ name ∈ names, PlainName name) {last : String}
    (hlast : PlainName last) (hdir : layout (names ++ [last]) = some .directory) :
    tree.makeDir (along (names ++ [last])) = .error .exists := by
  have henters := hclosed names last (by simp [hdir])
  have hget : tree.get? (base ++ (names ++ [last])) = some .directory := by
    rw [h.entry _ (by simp), hdir]
    rfl
  have hshort := Nat.not_lt.mpr hlast.short
  rw [makeDir, h.lastStep_of_enters hclosed hplain henters]
  simp [bind, Except.bind, hget, hshort]

theorem Holds.endsInDir_of_directory (hplain : ∀ name ∈ names, PlainName name)
    (hdir : layout names = some .directory) : tree.endsInDir (along names) = true := by
  have hwalk := h.walk_of_some hclosed hplain (.inr (by simp [hdir]))
  simp [endsInDir, along, start, h.place, hwalk, (h.isDirectoryAt_iff names).mpr (.inr hdir)]

/-- **Directories are made** all the way along names, if no file stands there. -/
theorem Holds.makeDirs_named (hplain : ∀ name ∈ names, PlainName name)
    (hclear : layout.Clear names) :
    ∃ after, tree.makeDirs (named names).reverse = (.ok (), after) ∧
      Holds after base (layout.makeDir names) := by
  induction names using List.reverseRecOn with
  | nil => exact ⟨tree, rfl, by rwa [Layout.makeDir_nil]⟩
  | append_singleton init last ih =>
    have hinit : ∀ name ∈ init, PlainName name := fun name hname =>
      hplain name (List.mem_append_left _ hname)
    have hlast := hplain last (by simp)
    have hclearInit : layout.Clear init := hclear.of_prefix (List.prefix_append ..)
    rcases hclear.enters_or_none with henters | ⟨-, hnone⟩
    · have hdir := henters.resolve_left (by simp)
      refine ⟨tree, makeDirs_of_exists (h.makeDir_of_directory hclosed hinit hlast hdir)
        (h.endsInDir_of_directory hclosed hplain hdir), ?_⟩
      rwa [Layout.makeDir_of_directory hclosed hdir]
    rcases hclearInit.enters_or_none with henters | ⟨hne, hmissing⟩
    · refine ⟨_, makeDirs_of_made (h.makeDir_of_none hclosed hinit henters hlast hnone), ?_⟩
      rw [Layout.makeDir_concat, Layout.makeDir_of_enters hclosed henters]
      exact h.put (by simp) .directory
    · obtain ⟨above, hmake, habove⟩ := ih hinit hclearInit
      have hrefused : tree.makeDir (along (init ++ [last])) = .error .notFound := by
        rw [makeDir, h.lastStep_of_none hclosed hinit hne hmissing hclearInit]
        rfl
      have hstill : layout.makeDir init (init ++ [last]) = none := by
        rw [Layout.makeDir_concat_self, hnone]
      refine ⟨_, makeDirs_of_missing hrefused hmake (habove.makeDir_of_none (hclosed.makeDir init)
        hinit (layout.enters_makeDir init) hlast hstill), ?_⟩
      rw [Layout.makeDir_concat]
      exact habove.put (by simp) .directory

/-- **Adding a directory** makes it in the layout. -/
theorem Holds.addDir (hnames : PlainNames names) (hclear : layout.Clear names) :
    Holds (tree.addDir (ofNames names)) base (layout.makeDir names) := by
  obtain ⟨after, hmake, hafter⟩ := h.makeDirs_named hclosed hnames.plain hclear
  rw [DiskTree.addDir, route_ofNames hnames, components_ofNames hnames.notEmpty hnames.plain]
  simpa only [hmake] using hafter

/-! ### Storing files -/

omit h hclosed in
theorem above_ofNames {init : List String} {last : String}
    (hplain : ∀ name ∈ init ++ [last], PlainName name) :
    above (ofNames (init ++ [last])) = (named init).reverse := by
  rw [above, components_ofNames (by simp) hplain, reverse_named_concat]

/-- What is missing above a path is made. -/
theorem Holds.makeAbove {last : String} (hnames : PlainNames (names ++ [last]))
    (hclear : layout.Clear names) :
    ∃ after, tree.makeAbove (ofNames (names ++ [last])) = (.ok (), after) ∧
      Holds after base (layout.makeDir names) := by
  have hplain : ∀ name ∈ names, PlainName name := fun name hname =>
    hnames.plain name (List.mem_append_left _ hname)
  rw [DiskTree.makeAbove, above_ofNames hnames.plain]
  by_cases hne : names = []
  · subst hne
    exact ⟨tree, rfl, by rwa [Layout.makeDir_nil]⟩
  · have hparent := parent_ofNames hne hplain (hnames.plain last (by simp))
    have hroute := route_ofNames (hnames.of_prefix hne (List.prefix_append ..))
    have hmissing : (named names).reverse ≠ [] := by simpa [named] using hne
    rw [if_neg hmissing, hparent, hroute]
    simp only [along, start, Bool.false_eq_true, if_false, h.place]
    rcases hclear.enters_or_none with henters | ⟨-, hnone⟩
    · have hdir := henters.resolve_left hne
      simp only [h.walk_of_some hclosed hplain (.inr (by simp [hdir]))]
      exact ⟨tree, rfl, by rwa [Layout.makeDir_of_directory hclosed hdir]⟩
    · obtain ⟨refusal, hwalk, -⟩ := h.walk_of_none hclosed hplain hne hnone
      simp only [hwalk]
      exact h.makeDirs_named hclosed hplain hclear

/-- A file is stored in a directory, if no directory is there. -/
theorem Holds.store {last : String} (hnames : PlainNames (names ++ [last]))
    (henters : layout.Enters names) (hdir : layout (names ++ [last]) ≠ some .directory)
    (octets : List UInt8) :
    tree.store (ofNames (names ++ [last])) octets =
      .ok (tree.put (base ++ (names ++ [last])) (.file octets)) := by
  have hplain : ∀ name ∈ names, PlainName name := fun name hname =>
    hnames.plain name (List.mem_append_left _ hname)
  have hshort := Nat.not_lt.mpr (hnames.plain last (by simp)).short
  have hnoDir : tree.isDirectoryAt (base ++ (names ++ [last])) = false := by
    rw [Bool.eq_false_iff, ne_eq, h.isDirectoryAt_iff]
    rintro (hnil | hdir')
    · simp at hnil
    · exact hdir hdir'
  have hstep := h.lastStep_of_enters hclosed hplain henters last
  have hends : (along (names ++ [last])).trailing = false := rfl
  rw [DiskTree.store, route_ofNames hnames]
  simp only [bind, Except.bind, hstep, hends, List.append_assoc, hnoDir, hshort,
    Bool.false_eq_true, if_false]

/-- **Storing a file** stores it in the layout. -/
theorem Holds.write (hnames : PlainNames names) (hdir : layout names ≠ some .directory)
    (hclear : layout.Clear names.dropLast) (text : String) :
    ∃ after, tree.write (ofNames names) text = (.ok (), after) ∧
      Holds after base (layout.store names text) := by
  obtain ⟨init, last, rfl⟩ := (List.eq_nil_or_concat names).resolve_left hnames.notEmpty
  rw [List.concat_eq_append] at *
  rw [List.dropLast_concat] at hclear
  obtain ⟨above, hmake, habove⟩ := h.makeAbove hclosed hnames hclear
  have hstill : layout.makeDir init (init ++ [last]) ≠ some .directory := by
    rwa [Layout.makeDir_concat_self]
  have hstore := habove.store (hclosed.makeDir init) hnames (layout.enters_makeDir init) hstill
    (Text.encodeUtf8 text)
  refine ⟨above.put (base ++ (init ++ [last])) (onDisk (.file text)), ?_, ?_⟩
  · rw [DiskTree.write, storeDeep, hmake]
    simp only [hstore, onDisk]
  · rw [Layout.store, List.dropLast_concat]
    exact habove.put (by simp) (.file text)

/-! ### What is seen -/

theorem Holds.locate_of_some (hnames : PlainNames names) (hsome : layout names ≠ none) :
    tree.locate (ofNames names) = .ok (base ++ names) := by
  simp [locate, bind, Except.bind, route_ofNames hnames, along, start, h.place,
    h.walk_of_some hclosed hnames.plain (.inr hsome)]

theorem Holds.locate_of_none (hnames : PlainNames names) (hnone : layout names = none) :
    ∃ refusal, tree.locate (ofNames names) = .error refusal ∧
      (layout.Clear names → refusal = .notFound) := by
  obtain ⟨refusal, hwalk, hclear⟩ := h.walk_of_none hclosed hnames.plain hnames.notEmpty hnone
  refine ⟨refusal, ?_, hclear⟩
  simp [locate, bind, Except.bind, route_ofNames hnames, along, start, h.place, hwalk]

/-- A path leads to what the layout has there. -/
theorem Holds.find?_eq (hnames : PlainNames names) :
    tree.find? (ofNames names) = (layout names).map onDisk := by
  rw [find?]
  cases hlayout : layout names with
  | none =>
    obtain ⟨refusal, hlocate, -⟩ := h.locate_of_none hclosed hnames hlayout
    rw [hlocate]
    rfl
  | some entry =>
    rw [h.locate_of_some hclosed hnames (by simp [hlayout])]
    exact (h.entry names hnames.notEmpty).trans (congrArg _ hlayout)

/-- **What is seen of a tree** is the layout that it holds. -/
theorem Holds.shows (hnames : PlainNames names) : Shows (fileSystem.view tree) layout names := by
  have hfind := h.find?_eq hclosed hnames
  have hentry := h.entry names hnames.notEmpty
  constructor
  · cases hlayout : layout names with
    | none => simp [fileSystem, isDir, hfind, hlayout]
    | some entry => cases entry <;> simp [fileSystem, isDir, hfind, hlayout, onDisk]
  · cases hlayout : layout names with
    | none => simp [fileSystem, isFile, hfind, hlayout]
    | some entry => cases entry <;> simp [fileSystem, isFile, hfind, hlayout, onDisk]
  · intro hlayout
    refine ⟨tree.namesBelow (base ++ names), ?_, nodup_namesBelow h.once _, fun name => ?_⟩
    · have hlocate := h.locate_of_some hclosed hnames (by simp [hlayout])
      have hdir := (h.isDirectoryAt_iff names).mpr (.inr hlayout)
      simp [fileSystem, list, hlocate, hdir]
    · have hget := h.entry (names ++ [name]) (by simp)
      rw [get?, if_neg (by simp), ← List.append_assoc] at hget
      rw [mem_namesBelow, hget]
      cases layout (names ++ [name]) <;> simp
  · intro text hlayout
    have hlocate := h.locate_of_some hclosed hnames (by simp [hlayout])
    have hdir : tree.isDirectoryAt (base ++ names) = false := by
      rw [isDirectoryAt, hentry, hlayout]
      rfl
    simp [fileSystem, list, hlocate, hdir]
  · intro hlayout
    obtain ⟨refusal, hlocate, -⟩ := h.locate_of_none hclosed hnames hlayout
    simp [fileSystem, list, hlocate]
  · intro text hlayout
    have hlocate := h.locate_of_some hclosed hnames (by simp [hlayout])
    rw [hlayout] at hentry
    have hoctets : tree.octets (ofNames names) = .ok (Text.encodeUtf8 text) := by
      simp [octets, bind, Except.bind, hlocate, hentry, onDisk]
    simp [fileSystem, read, hoctets, Text.decodeUtf8_encodeUtf8]
  · intro hlayout hclear
    obtain ⟨refusal, hlocate, hrefusal⟩ := h.locate_of_none hclosed hnames hlayout
    rw [hrefusal hclear] at hlocate
    have hoctets : tree.octets (ofNames names) = .error .notFound := by
      simp [octets, bind, Except.bind, hlocate]
    simp [fileSystem, read, hoctets]

end
end
end DiskTree
end Promptbook
