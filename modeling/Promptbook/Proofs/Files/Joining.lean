import Mathlib.Data.List.Basic
import Promptbook.Files.Path

/-! Paths that are followed from another.

What a path leads through are its steps, behind an opening that says where it starts. A separator
cuts the steps of a text in two and leaves the opening to what stands before it. So the components of
a relative path come behind those of the path that it is followed from, however the separators are
written at the seam; only a `.` at its start, which is no step, is lost (`components_join`). -/
namespace Promptbook.Path

/-! ### Openings and steps -/

/-- The components of a text but for how it starts. -/
def steps (text : List Char) : List Component := (segments text).filterMap Component.ofSegment?

/-- How a text starts: at the root, at a `.`, or with neither. -/
def opening (text : List Char) : List Component :=
  if text.head? = some '/' then [.root]
  else if (segments text).head? = some ['.'] then [.here]
  else []

theorem components_eq (path : Path) :
    path.components = opening path.text.toList ++ steps path.text.toList := by
  simp only [components, isAbsolute, opening, steps, decide_eq_true_eq]
  split
  · rfl
  · split <;> rfl

theorem here_not_mem_steps (text : List Char) : .here ∉ steps text := by
  rw [steps, List.mem_filterMap]
  rintro ⟨segment, -, hsegment⟩
  unfold Component.ofSegment? at hsegment
  split at hsegment
  · cases hsegment
  · split at hsegment <;> cases hsegment

/-- Without a `.` at its start, a relative path is its steps. -/
theorem filter_components {path : Path} (h : path.isAbsolute = false) :
    path.components.filter (· ≠ .here) = steps path.text.toList := by
  have hsteps : (steps path.text.toList).filter (· ≠ .here) = steps path.text.toList := by
    rw [List.filter_eq_self]
    rintro step hstep
    refine decide_eq_true ?_
    rintro rfl
    exact here_not_mem_steps _ hstep
  rw [components_eq, List.filter_append, hsteps, opening, if_neg (of_decide_eq_false h)]
  split <;> rfl

/-! ### Seams -/

theorem segments_ne_nil (text : List Char) : segments text ≠ [] := by
  unfold segments
  split
  · simp
  · simp
  · split <;> simp

/-- A separator cuts. -/
theorem segments_append_separator (before after : List Char) :
    segments (before ++ '/' :: after) = segments before ++ segments after := by
  induction before with
  | nil => rfl
  | cons c rest ih =>
    by_cases hc : c = '/'
    · subst hc
      rw [List.cons_append, segments, ih, segments, List.cons_append]
    · obtain ⟨first, more, hrest⟩ := List.exists_cons_of_ne_nil (segments_ne_nil rest)
      rw [List.cons_append, segments, ih, segments, hrest]
      all_goals simp_all

theorem steps_append_separator (before after : List Char) :
    steps (before ++ '/' :: after) = steps before ++ steps after := by
  rw [steps, segments_append_separator, List.filterMap_append]
  rfl

/-- What stands behind the first separator does not count for how a text starts. -/
theorem opening_append_separator (before after : List Char) :
    opening (before ++ '/' :: after) = opening (before ++ ['/']) := by
  have hhead (after : List Char) :
      (segments (before ++ '/' :: after)).head? = (segments before).head? := by
    rw [segments_append_separator, List.head?_append_of_ne_nil _ (segments_ne_nil before)]
  rw [opening, opening, hhead, hhead]
  cases before <;> rfl

theorem opening_concat_separator {text : List Char} (h : text ≠ []) :
    opening (text ++ ['/']) = opening text := by
  have hhead : (segments (text ++ ['/'])).head? = (segments text).head? := by
    rw [segments_append_separator, List.head?_append_of_ne_nil _ (segments_ne_nil text)]
  rw [opening, opening, hhead, List.head?_append_of_ne_nil _ h]

/-- A path behind the empty one is itself. -/
theorem join_of_empty {base : Path} (hbase : base.text = "") (path : Path) :
    base.join path = path := by
  unfold join
  split
  · rfl
  · simp [hbase]

/-- **A relative path behind another.** -/
theorem components_join {base path : Path} (hbase : base.text ≠ "") (h : path.isAbsolute = false) :
    (base.join path).components = base.components ++ path.components.filter (· ≠ .here) := by
  have hne : base.text.toList ≠ [] := fun hnil => hbase (String.toList_inj.mp hnil)
  rw [filter_components h, components_eq, components_eq, join, if_neg (by simp [h]), List.append_assoc]
  by_cases hlast : base.text.toList.getLast? = some '/'
  · obtain ⟨before, hbefore⟩ := List.getLast?_eq_some_iff.mp hlast
    have hempty : steps [] = [] := rfl
    rw [if_pos (.inr hlast), String.toList_append, hbefore, List.append_assoc, List.singleton_append,
      opening_append_separator, steps_append_separator, steps_append_separator, hempty,
      List.append_nil]
  · have htext : (base.text ++ "/" ++ path.text).toList =
        base.text.toList ++ '/' :: path.text.toList := by simp
    rw [if_neg (by simp [hbase, hlast]), htext, opening_append_separator, steps_append_separator,
      opening_concat_separator hne]

end Promptbook.Path
