import Mathlib.Data.List.Infix
import Promptbook.Files.DiskTree
import Promptbook.Files.MemoryTree

/-! Plain paths.

A plain path is written by names with separators between them, and none of the names means
anything else to a system (`PlainName`). Such a path is read as just these names, by its
components (`components_ofNames`) and by the system (`route_ofNames`), and the path above it is
that of the names before the last (`parent_ofNames`). -/
namespace Promptbook

/-! ### Names -/

/-- A name that stands for nothing but an entry of a directory, and that no system refuses. -/
structure PlainName (name : String) : Prop where
  notEmpty : name ≠ ""
  notHere : name ≠ "."
  notParent : name ≠ ".."
  noSeparator : '/' ∉ name.toList
  noNul : '\x00' ∉ name.toList
  short : name.utf8ByteSize ≤ DiskTree.nameLimit

namespace Path

/-- The path along these names. -/
def ofNames (names : List String) : Path := ⟨"/".intercalate names⟩

/-- The components of a plain path with these names. -/
def named (names : List String) : List Component := names.map .name

theorem named_injective : Function.Injective named :=
  List.map_injective_iff.mpr fun _ _ h => Component.name.inj h

theorem named_prefix_iff {names other : List String} :
    named names <+: named other ↔ names <+: other := by
  constructor
  · rintro ⟨rest, hrest⟩
    obtain ⟨front, back, rfl, hfront, -⟩ := List.append_eq_map_iff.mp hrest
    rw [← named_injective hfront]
    exact List.prefix_append ..
  · rintro ⟨rest, rfl⟩
    rw [named, named, List.map_append]
    exact List.prefix_append ..

end Path

open Promptbook.Path

/-- Names of a path that no system refuses. -/
structure PlainNames (names : List String) : Prop where
  notEmpty : names ≠ []
  plain : ∀ name ∈ names, PlainName name
  short : (ofNames names).text.utf8ByteSize ≤ DiskTree.pathLimit

instance (name : String) : Decidable (PlainName name) :=
  decidable_of_iff (name ≠ "" ∧ name ≠ "." ∧ name ≠ ".." ∧ '/' ∉ name.toList ∧
      '\x00' ∉ name.toList ∧ name.utf8ByteSize ≤ DiskTree.nameLimit)
    ⟨fun ⟨a, b, c, d, e, f⟩ => ⟨a, b, c, d, e, f⟩, fun ⟨a, b, c, d, e, f⟩ => ⟨a, b, c, d, e, f⟩⟩

instance (names : List String) : Decidable (PlainNames names) :=
  decidable_of_iff (names ≠ [] ∧ (∀ name ∈ names, PlainName name) ∧
      (ofNames names).text.utf8ByteSize ≤ DiskTree.pathLimit)
    ⟨fun ⟨a, b, c⟩ => ⟨a, b, c⟩, fun ⟨a, b, c⟩ => ⟨a, b, c⟩⟩

/-! ### Writing -/

theorem ofNames_append {above below : List String} (ha : above ≠ []) (hb : below ≠ []) :
    (ofNames (above ++ below)).text = (ofNames above).text ++ "/" ++ (ofNames below).text :=
  String.intercalate_append_of_ne_nil ha hb

theorem ofNames_singleton (name : String) : (ofNames [name]).text = name := by
  simp [ofNames]

/-- The names above plain ones are plain, too. -/
theorem PlainNames.of_prefix {above names : List String} (h : PlainNames names)
    (hne : above ≠ []) (hpre : above <+: names) : PlainNames above := by
  obtain ⟨below, rfl⟩ := hpre
  refine ⟨hne, fun name hname => h.plain name (List.mem_append_left _ hname), ?_⟩
  by_cases hb : below = []
  · simpa [hb] using h.short
  · have hshort := h.short
    rw [ofNames_append hne hb, String.utf8ByteSize_append, String.utf8ByteSize_append] at hshort
    omega

theorem toList_ofNames_append {above below : List String} (ha : above ≠ []) (hb : below ≠ []) :
    (ofNames (above ++ below)).text.toList =
      (ofNames above).text.toList ++ '/' :: (ofNames below).text.toList := by
  rw [ofNames_append ha hb]
  simp

/-! ### Segments -/

theorem segments_of_no_separator {segment : List Char} (h : '/' ∉ segment) :
    segments segment = [segment] := by
  induction segment with
  | nil => rfl
  | cons c rest ih =>
    obtain ⟨hc, hrest⟩ := List.ne_and_not_mem_of_not_mem_cons h
    rw [segments, ih hrest]
    exact fun heq => hc heq.symm

theorem segments_append {segment : List Char} (h : '/' ∉ segment) (rest : List Char) :
    segments (segment ++ '/' :: rest) = segment :: segments rest := by
  induction segment with
  | nil => rfl
  | cons c more ih =>
    obtain ⟨hc, hmore⟩ := List.ne_and_not_mem_of_not_mem_cons h
    rw [List.cons_append, segments, ih hmore]
    exact fun heq => hc heq.symm

/-- The segments of a path are its names. -/
theorem segments_ofNames {names : List String} (hne : names ≠ [])
    (h : ∀ name ∈ names, PlainName name) :
    segments (ofNames names).text.toList = names.map String.toList := by
  induction names with
  | nil => exact absurd rfl hne
  | cons name rest ih =>
    have hname := (h name List.mem_cons_self).noSeparator
    cases rest with
    | nil => rw [ofNames_singleton, segments_of_no_separator hname, List.map_singleton]
    | cons next more =>
      have hmore := ih (List.cons_ne_nil _ _) fun other hother =>
        h other (List.mem_cons_of_mem _ hother)
      have happend := toList_ofNames_append (List.cons_ne_nil name []) (List.cons_ne_nil next more)
      rw [List.singleton_append, ofNames_singleton] at happend
      rw [happend, segments_append hname, hmore]
      rfl

/-! ### Reading -/

section
variable {name : String} {names : List String}

theorem toList_ne_nil (h : PlainName name) : name.toList ≠ [] := fun hnil =>
  h.notEmpty (String.toList_inj.mp hnil)

theorem PlainName.component (h : PlainName name) :
    Component.ofSegment? name.toList = some (.name name) := by
  have hhere : name.toList ≠ ['.'] := fun heq => h.notHere (String.toList_inj.mp heq)
  have hparent : name.toList ≠ ['.', '.'] := fun heq => h.notParent (String.toList_inj.mp heq)
  simp [Component.ofSegment?, toList_ne_nil h, hhere, hparent]

theorem PlainName.step (h : PlainName name) :
    DiskTree.Step.ofSegment? name.toList = some (.into name) := by
  have hhere : name.toList ≠ ['.'] := fun heq => h.notHere (String.toList_inj.mp heq)
  have hparent : name.toList ≠ ['.', '.'] := fun heq => h.notParent (String.toList_inj.mp heq)
  simp [DiskTree.Step.ofSegment?, toList_ne_nil h, hhere, hparent]

/-- A path starts with the first of its names. -/
theorem toList_ofNames_cons (first : String) (rest : List String) :
    ∃ more, (ofNames (first :: rest)).text.toList = first.toList ++ more := by
  by_cases hrest : rest = []
  · exact ⟨[], by simp [hrest, ofNames_singleton]⟩
  · refine ⟨'/' :: (ofNames rest).text.toList, ?_⟩
    have happend := toList_ofNames_append (List.cons_ne_nil first []) hrest
    rwa [List.singleton_append, ofNames_singleton] at happend

/-- A path ends with the last of its names. -/
theorem toList_ofNames_concat (init : List String) (last : String) :
    ∃ front, (ofNames (init ++ [last])).text.toList = front ++ last.toList := by
  by_cases hinit : init = []
  · exact ⟨[], by simp [hinit, ofNames_singleton]⟩
  · refine ⟨(ofNames init).text.toList ++ ['/'], ?_⟩
    rw [toList_ofNames_append hinit (List.cons_ne_nil last []), ofNames_singleton]
    simp

theorem isAbsolute_ofNames (hne : names ≠ []) (h : ∀ name ∈ names, PlainName name) :
    (ofNames names).isAbsolute = false := by
  obtain ⟨first, rest, rfl⟩ := List.exists_cons_of_ne_nil hne
  have hfirst := h first List.mem_cons_self
  obtain ⟨more, hmore⟩ := toList_ofNames_cons first rest
  obtain ⟨c, chars, hc⟩ := List.exists_cons_of_ne_nil (toList_ne_nil hfirst)
  have hsep := hfirst.noSeparator
  rw [hc] at hmore hsep
  rw [isAbsolute, hmore]
  simpa using (List.ne_of_not_mem_cons hsep).symm

theorem head?_segments_ofNames (hne : names ≠ []) (h : ∀ name ∈ names, PlainName name) :
    (segments (ofNames names).text.toList).head? ≠ some ['.'] := by
  obtain ⟨first, rest, rfl⟩ := List.exists_cons_of_ne_nil hne
  rw [segments_ofNames hne h, List.map_cons, List.head?_cons]
  intro hhere
  exact (h first List.mem_cons_self).notHere (String.toList_inj.mp (Option.some.inj hhere))

/-- **The components of a plain path are its names.** -/
theorem components_ofNames (hne : names ≠ []) (h : ∀ name ∈ names, PlainName name) :
    (ofNames names).components = named names := by
  have hfound : (names.map String.toList).filterMap Component.ofSegment? = named names := by
    rw [named, List.filterMap_map, ← List.filterMap_eq_map]
    exact List.filterMap_congr fun name hname => (h name hname).component
  simp only [components, isAbsolute_ofNames hne h, head?_segments_ofNames hne h,
    Bool.false_eq_true, if_false]
  rw [segments_ofNames hne h, hfound]

/-- A path holds nothing but its names and separators. -/
theorem mem_ofNames {c : Char} (h : c ∈ (ofNames names).text.toList) :
    c = '/' ∨ ∃ name ∈ names, c ∈ name.toList := by
  induction names with
  | nil => simp [ofNames] at h
  | cons name rest ih =>
    by_cases hrest : rest = []
    · rw [hrest, ofNames_singleton] at h
      exact .inr ⟨name, List.mem_cons_self, h⟩
    · have happend := toList_ofNames_append (List.cons_ne_nil name []) hrest
      rw [List.singleton_append, ofNames_singleton] at happend
      rw [happend, List.mem_append, List.mem_cons] at h
      rcases h with h | rfl | h
      · exact .inr ⟨name, List.mem_cons_self, h⟩
      · exact .inl rfl
      · rcases ih h with hc | ⟨other, hother, hc⟩
        · exact .inl hc
        · exact .inr ⟨other, List.mem_cons_of_mem _ hother, hc⟩

theorem getLast?_ofNames (hne : names ≠ []) (h : ∀ name ∈ names, PlainName name) :
    (ofNames names).text.toList.getLast? ≠ some '/' := by
  obtain ⟨init, last, rfl⟩ := (List.eq_nil_or_concat names).resolve_left hne
  rw [List.concat_eq_append] at *
  have hlast := h last (by simp)
  obtain ⟨front, hfront⟩ := toList_ofNames_concat init last
  rw [hfront, List.getLast?_append_of_ne_nil _ (toList_ne_nil hlast)]
  intro hsep
  exact hlast.noSeparator (List.mem_of_getLast? hsep)

/-- The route along these names. -/
def DiskTree.along (names : List String) : DiskTree.Route := ⟨false, names.map .into, false⟩

/-- **A system reads a plain path as its names.** -/
theorem route_ofNames (h : PlainNames names) :
    DiskTree.route (ofNames names) = .ok (DiskTree.along names) := by
  have hsteps : (names.map String.toList).filterMap DiskTree.Step.ofSegment? = names.map .into := by
    rw [List.filterMap_map, ← List.filterMap_eq_map]
    exact List.filterMap_congr fun name hname => (h.plain name hname).step
  have hnul : (ofNames names).text.toList.contains '\x00' = false := by
    rw [List.contains_eq_mem, decide_eq_false_iff_not]
    intro hc
    rcases mem_ofNames hc with heq | ⟨name, hname, hc⟩
    · exact absurd heq (by decide)
    · exact (h.plain name hname).noNul hc
  have htext : (ofNames names).text.toList ≠ [] := by
    obtain ⟨first, rest, rfl⟩ := List.exists_cons_of_ne_nil h.notEmpty
    obtain ⟨more, hmore⟩ := toList_ofNames_cons first rest
    rw [hmore]
    simp [toList_ne_nil (h.plain first List.mem_cons_self)]
  have hshort : ¬(ofNames names).text.utf8ByteSize > DiskTree.pathLimit := Nat.not_lt.mpr h.short
  simp only [DiskTree.route, hnul, htext, hshort, Bool.false_eq_true, if_false,
    isAbsolute_ofNames h.notEmpty h.plain, getLast?_ofNames h.notEmpty h.plain, decide_false]
  rw [segments_ofNames h.notEmpty h.plain, hsteps, DiskTree.along]

/-! ### Upwards -/

/-- Nothing is trimmed behind a plain name. -/
theorem PlainName.trimBack (h : PlainName name) (front : List Char) :
    trimBack (name.toList.reverse ++ front) = name.toList.reverse ++ front := by
  obtain ⟨c, more, hc⟩ := List.exists_cons_of_ne_nil
    (show name.toList.reverse ≠ [] by simpa using toList_ne_nil h)
  have hsep : '/' ∉ c :: more := by simpa [← hc] using h.noSeparator
  have hne : c ≠ '/' := (List.ne_of_not_mem_cons hsep).symm
  have hdot : ∀ rest, c :: (more ++ front) ≠ '.' :: '/' :: rest := by
    rintro rest heq
    obtain ⟨rfl, hmore⟩ := List.cons.inj heq
    cases more with
    | nil =>
      have hname : name.toList = ['.'] := by simpa using congrArg List.reverse hc
      exact h.notHere (String.toList_inj.mp hname)
    | cons next rest' =>
      obtain ⟨rfl, -⟩ := List.cons.inj hmore
      exact hsep (by simp)
  rw [hc, List.cons_append, Path.trimBack]
  all_goals grind

/-- **Above a plain path** is the path of the names before the last. -/
theorem parent_ofNames {init : List String} {last : String} (hinit : init ≠ [])
    (h : ∀ name ∈ init, PlainName name) (hlast : PlainName last) :
    (ofNames (init ++ [last])).parent = ofNames init := by
  obtain ⟨before, final, rfl⟩ := (List.eq_nil_or_concat init).resolve_left hinit
  rw [List.concat_eq_append] at *
  have hfinal := h final (by simp)
  obtain ⟨front, hfront⟩ := toList_ofNames_concat before final
  have htext : (ofNames (before ++ [final] ++ [last])).text.toList.reverse =
      last.toList.reverse ++ '/' :: (final.toList.reverse ++ front.reverse) := by
    rw [toList_ofNames_append hinit (List.cons_ne_nil last []), ofNames_singleton, hfront]
    simp
  have hdrop : (last.toList.reverse ++ '/' :: (final.toList.reverse ++ front.reverse)).dropWhile
      (· != '/') = '/' :: (final.toList.reverse ++ front.reverse) := by
    rw [List.dropWhile_append_of_pos]
    · rfl
    · intro c hc
      have hsep := hlast.noSeparator
      simp only [bne_iff_ne, ne_eq]
      rintro rfl
      exact hsep (by simpa using hc)
  have htrim : trimBack ('/' :: (final.toList.reverse ++ front.reverse)) =
      final.toList.reverse ++ front.reverse := by
    rw [Path.trimBack, hfinal.trimBack]
    simpa using fun heq => absurd heq hfinal.notEmpty
  simp only [Path.parent, htext, hlast.trimBack, hdrop, htrim]
  rw [← List.reverse_append, List.reverse_reverse, ← hfront, String.ofList_toList]

end
end Promptbook
