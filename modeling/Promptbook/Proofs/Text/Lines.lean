import Promptbook.Text.Lines
import Promptbook.Proofs.Text.Trim

/-! Cutting a text into lines, and putting lines together.

Lines that are written out each with a line feed come back as they were, except that a
carriage return at the end of one is taken for a part of the break (`lines_unlines`).
The lines of any text are free of line feeds. Joining two texts joins their lines, if the
first does not break off within one (`lines_append`). -/
namespace Promptbook.Text

/-- The line without one carriage return at its end. -/
def withoutReturn (line : List Char) : List Char :=
  if line.getLast? = some '\r' then line.dropLast else line

theorem withoutReturn_of_ne {line : List Char} (h : line.getLast? ≠ some '\r') :
    withoutReturn line = line := if_neg h

/-- A line with a carriage return at its end is longer than without. -/
theorem withoutReturn_eq_self_iff {line : List Char} :
    withoutReturn line = line ↔ line.getLast? ≠ some '\r' := by
  constructor
  · intro h hr
    rw [withoutReturn, if_pos hr] at h
    have hlength := congrArg List.length h
    have hne : line ≠ [] := by
      intro h
      subst h
      cases hr
    have := List.length_pos_iff.mpr hne
    rw [List.length_dropLast] at hlength
    omega
  · exact withoutReturn_of_ne

theorem map_withoutReturn_eq_self_iff {ls : List (List Char)} :
    ls.map withoutReturn = ls ↔ ∀ line ∈ ls, line.getLast? ≠ some '\r' := by
  have h : ls.map withoutReturn = ls.map id ↔ ∀ line ∈ ls, withoutReturn line = id line :=
    List.map_inj_left
  rw [List.map_id] at h
  rw [h]
  exact forall₂_congr fun line _ => withoutReturn_eq_self_iff

theorem mem_of_mem_withoutReturn {line : List Char} {c : Char} (h : c ∈ withoutReturn line) :
    c ∈ line := by
  unfold withoutReturn at h
  split at h
  · exact (List.dropLast_sublist line).subset h
  · exact h

theorem eq_append_of_getLast? {line : List Char} {c : Char} (h : line.getLast? = some c) :
    line = line.dropLast ++ [c] := by
  obtain ⟨before, rfl⟩ := List.getLast?_eq_some_iff.mp h
  simp

theorem trim_withoutReturn (line : List Char) : trim (withoutReturn line) = trim line := by
  by_cases h : line.getLast? = some '\r'
  · rw [withoutReturn, if_pos h]
    have hr : isBlank '\r' = true := by decide
    rw [eq_append_of_getLast? h, trim_append_blank hr, List.dropLast_concat]
  · rw [withoutReturn_of_ne h]

theorem allBlank_withoutReturn (line : List Char) :
    allBlank (withoutReturn line) = allBlank line := by
  rw [Bool.eq_iff_iff, ← trim_eq_nil_iff, ← trim_eq_nil_iff, trim_withoutReturn]

/-! ### Cutting -/

theorem lines_cons {c : Char} {rest : List Char} (hc : c ≠ '\n')
    (hr : ∀ after, c = '\r' → rest = '\n' :: after → False) :
    lines (c :: rest) =
      match lines rest with
      | [] => [[c]]
      | line :: more => (c :: line) :: more :=
  lines.eq_4 c rest hc hr

theorem lines_append_newline {line : List Char} (h : '\n' ∉ line) (rest : List Char) :
    lines (line ++ '\n' :: rest) = withoutReturn line :: lines rest := by
  induction line with
  | nil => exact lines_newline rest
  | cons c line ih =>
    have hc : c ≠ '\n' := fun e => h (e ▸ List.mem_cons_self)
    have hline := ih fun hm => h (List.mem_cons_of_mem c hm)
    cases line with
    | nil =>
      by_cases hr : c = '\r'
      · subst hr
        exact lines_return_newline rest
      · have hsingle : withoutReturn [c] = [c] := withoutReturn_of_ne (by simpa using hr)
        rw [List.cons_append, lines_cons hc fun _ e _ => hr e, hline, hsingle]
        rfl
    | cons d line =>
      have hd : d ≠ '\n' := fun e => h (by simp [e])
      have hcons : withoutReturn (c :: d :: line) = c :: withoutReturn (d :: line) := by
        unfold withoutReturn
        rw [List.getLast?_cons_cons]
        split <;> rfl
      have hbreak : ∀ after, c = '\r' → d :: line ++ '\n' :: rest = '\n' :: after → False :=
        fun _ _ e => hd (List.cons.inj e).1
      rw [List.cons_append, lines_cons hc hbreak, hline, hcons]

/-- Lines that are written out come back whatever follows them. -/
theorem lines_unlines_append {ls : List (List Char)} (h : ∀ line ∈ ls, '\n' ∉ line)
    (rest : List Char) : lines (unlines ls ++ rest) = ls.map withoutReturn ++ lines rest := by
  induction ls with
  | nil => rfl
  | cons line ls ih =>
    rw [unlines_cons, List.append_assoc, List.cons_append,
      lines_append_newline (h line List.mem_cons_self),
      ih fun l hl => h l (List.mem_cons_of_mem _ hl), List.map_cons, List.cons_append]

/-- **Lines that are written out come back**, but for a carriage return at the end of one. -/
theorem lines_unlines {ls : List (List Char)} (h : ∀ line ∈ ls, '\n' ∉ line) :
    lines (unlines ls) = ls.map withoutReturn := by
  have hlines := lines_unlines_append h []
  rwa [List.append_nil, lines_nil, List.append_nil] at hlines

theorem newline_not_mem_lines (text : List Char) : ∀ line ∈ lines text, '\n' ∉ line := by
  induction text using lines.induct with
  | case1 => simp
  | case2 rest ih => simpa using ih
  | case3 rest ih => simpa using ih
  | case4 c rest hc hr hnil ih =>
    rw [lines_cons hc hr, hnil]
    simpa using Ne.symm hc
  | case5 c rest hc hr line more hcons ih =>
    rw [lines_cons hc hr, hcons]
    intro l hl hm
    rw [hcons] at ih
    rcases List.mem_cons.mp hl with rfl | hl
    · rcases List.mem_cons.mp hm with hm | hm
      · exact hc hm.symm
      · exact ih line List.mem_cons_self hm
    · exact ih l (List.mem_cons_of_mem _ hl) hm

/-! ### Joining -/

theorem joinLines_cons_cons (line next : List Char) (more : List (List Char)) :
    joinLines (line :: next :: more) = line ++ '\n' :: joinLines (next :: more) := rfl

theorem joinLines_eq_intercalate (ls : List (List Char)) :
    joinLines ls = ['\n'].intercalate ls := by
  induction ls with
  | nil => rfl
  | cons line more ih =>
    cases more with
    | nil => simp [joinLines]
    | cons next more =>
      rw [joinLines_cons_cons, ih, List.intercalate_cons_cons]
      simp

theorem joinLines_splitOn (text : List Char) : joinLines (text.splitOn '\n') = text := by
  rw [joinLines_eq_intercalate, List.intercalate_splitOn]

theorem splitOn_joinLines {ls : List (List Char)} (h : ∀ line ∈ ls, '\n' ∉ line) (hne : ls ≠ []) :
    (joinLines ls).splitOn '\n' = ls := by
  rw [joinLines_eq_intercalate, List.splitOn_intercalate '\n' h hne]

theorem unlines_eq_joinLines {ls : List (List Char)} (hne : ls ≠ []) :
    unlines ls = joinLines ls ++ ['\n'] := by
  induction ls with
  | nil => contradiction
  | cons line more ih =>
    cases more with
    | nil => simp [joinLines]
    | cons next more =>
      rw [unlines_cons, ih (List.cons_ne_nil _ _), joinLines_cons_cons]
      simp

theorem newline_not_mem_splitOn (text : List Char) : ∀ line ∈ text.splitOn '\n', '\n' ∉ line := by
  induction text with
  | nil => simp
  | cons c rest ih =>
    rw [List.splitOn_cons_eq_if_modifyHead]
    split
    · simpa using ih
    · next hc =>
      obtain ⟨line, more, hsplit⟩ := List.exists_cons_of_ne_nil (List.splitOn_ne_nil '\n' rest)
      rw [hsplit] at ih ⊢
      intro l hl hm
      rcases List.mem_cons.mp hl with rfl | hl
      · rcases List.mem_cons.mp hm with rfl | hm
        · exact hc (by simp)
        · exact ih line List.mem_cons_self hm
      · exact ih l (List.mem_cons_of_mem _ hl) hm

/-! ### Texts, one behind the other -/

/-- A text that does not break off within a line is written out line by line. -/
theorem exists_eq_unlines {text : List Char} (h : text = [] ∨ text.getLast? = some '\n') :
    ∃ ls, text = unlines ls ∧ ∀ line ∈ ls, '\n' ∉ line := by
  rcases h with rfl | h
  · exact ⟨[], rfl, by simp⟩
  · refine ⟨text.dropLast.splitOn '\n', ?_, newline_not_mem_splitOn _⟩
    rw [unlines_eq_joinLines (List.splitOn_ne_nil _ _), joinLines_splitOn]
    exact eq_append_of_getLast? h

/-- **Texts that are joined between two lines have the lines of the one and of the other.** -/
theorem lines_append {text : List Char} (h : text = [] ∨ text.getLast? = some '\n')
    (rest : List Char) : lines (text ++ rest) = lines text ++ lines rest := by
  obtain ⟨ls, rfl, hls⟩ := exists_eq_unlines h
  rw [lines_unlines_append hls, lines_unlines hls]

end Promptbook.Text
