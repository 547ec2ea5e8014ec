import Mathlib.Data.List.TakeWhile

/-! Cutting a text at the first of a character.

What stands before the cut is free of the character, and what is left starts with it. A
text that was put together at its first such character is cut there again, and no part that
is free of it reaches over such a cut (`eq_append_of_not_mem`). -/
namespace Promptbook.Text
variable {c : Char}

theorem not_mem_takeWhile (c : Char) (text : List Char) : c ∉ text.takeWhile (· != c) := by
  intro hm
  have hc := List.mem_takeWhile_imp hm
  simp at hc

theorem eq_of_dropWhile_eq_cons {d : Char} {text rest : List Char}
    (h : text.dropWhile (· != c) = d :: rest) : d = c := by
  have hne : text.dropWhile (· != c) ≠ [] := by simp [h]
  have hhead := List.head_dropWhile_not (· != c) hne
  simpa [h] using hhead

/-- A text that holds the character is what stands before the first one, and the rest. -/
theorem eq_takeWhile_append {text : List Char} (h : c ∈ text) :
    ∃ rest, text = text.takeWhile (· != c) ++ c :: rest := by
  cases hdrop : text.dropWhile (· != c) with
  | nil =>
    have hc := List.dropWhile_eq_nil_iff.mp hdrop c h
    simp at hc
  | cons d rest =>
    obtain rfl := eq_of_dropWhile_eq_cons hdrop
    exact ⟨rest, by rw [← hdrop, List.takeWhile_append_dropWhile]⟩

theorem takeWhile_append_cons {before : List Char} (h : c ∉ before) (rest : List Char) :
    (before ++ c :: rest).takeWhile (· != c) = before := by
  have hall : ∀ d ∈ before, (d != c) = true := fun d hd => by
    simpa using fun e : d = c => h (e ▸ hd)
  rw [List.takeWhile_append_of_pos hall]
  simp

theorem dropWhile_append_cons {before : List Char} (h : c ∉ before) (rest : List Char) :
    (before ++ c :: rest).dropWhile (· != c) = c :: rest := by
  have hall : ∀ d ∈ before, (d != c) = true := fun d hd => by
    simpa using fun e : d = c => h (e ▸ hd)
  rw [List.dropWhile_append_of_pos hall]
  simp

/-- A beginning without the element at a cut ends before the cut. -/
theorem eq_append_of_not_mem {first second before after : List α} {x : α}
    (h : first ++ second = before ++ x :: after) (hx : x ∉ first) :
    ∃ more, before = first ++ more ∧ second = more ++ x :: after := by
  rcases List.append_eq_append_iff.mp h with ⟨more, hbefore, hsecond⟩ | ⟨more, hfirst, hcut⟩
  · exact ⟨more, hbefore, hsecond⟩
  · cases more with
    | nil => exact ⟨[], by simp [hfirst], hcut.symm⟩
    | cons y more =>
      obtain ⟨rfl, -⟩ := List.cons.inj hcut
      exact absurd (by simp [hfirst]) hx

end Promptbook.Text
