import Mathlib.Data.List.DropRight
import Mathlib.Data.List.TakeWhile
import Promptbook.Text.Blank

/-! What trimming leaves.

A trimmed text has no blank character at either end, and a text without one at either
end is its own trim (`trim_eq_self_iff`). Where one end is visible already, trimming
takes only from the other: the trim is then a beginning or an ending of the text. -/
namespace Promptbook.Text

theorem trimStart_eq_self_iff {text : List Char} :
    trimStart text = text ↔ ∀ c ∈ text.head?, isBlank c = false := by
  cases text with
  | nil => simp
  | cons c rest =>
    cases h : isBlank c with
    | false => simp [trimStart_of_visible h, h]
    | true =>
      have hne : trimStart (c :: rest) ≠ c :: rest := by
        rw [trimStart_of_blank h]
        intro heq
        have hlength : (rest.dropWhile isBlank).length ≤ rest.length :=
          (List.dropWhile_suffix isBlank).length_le
        rw [show rest.dropWhile isBlank = c :: rest from heq, List.length_cons] at hlength
        omega
      simp [hne, h]

theorem trimEnd_eq_self_iff {text : List Char} :
    trimEnd text = text ↔ ∀ c ∈ text.getLast?, isBlank c = false := by
  have h : trimStart text.reverse = text.reverse ↔ _ := trimStart_eq_self_iff
  rw [List.head?_reverse] at h
  rw [← h, trimEnd, trimStart, ← List.reverse_inj, List.reverse_reverse]

theorem trimStart_isSuffix (text : List Char) : trimStart text <:+ text :=
  List.dropWhile_suffix isBlank

theorem trimEnd_isPrefix (text : List Char) : trimEnd text <+: text :=
  List.rdropWhile_prefix isBlank text

theorem visible_head_trimStart (text : List Char) :
    ∀ c ∈ (trimStart text).head?, isBlank c = false :=
  trimStart_eq_self_iff.mp (List.dropWhile_idempotent isBlank text)

theorem visible_last_trimEnd (text : List Char) :
    ∀ c ∈ (trimEnd text).getLast?, isBlank c = false :=
  trimEnd_eq_self_iff.mp (List.rdropWhile_idempotent isBlank text)

/-- A beginning of a list starts as the list does, if it has a start at all. -/
theorem mem_head?_of_beginning {before all : List α} (h : before <+: all) {a : α}
    (ha : a ∈ before.head?) : a ∈ all.head? := by
  obtain ⟨rest, rfl⟩ := h
  cases before with
  | nil => cases ha
  | cons b before => exact ha

theorem visible_head_trim (text : List Char) : ∀ c ∈ (trim text).head?, isBlank c = false :=
  fun c h => visible_head_trimStart text c (mem_head?_of_beginning (trimEnd_isPrefix _) h)

theorem visible_last_trim (text : List Char) : ∀ c ∈ (trim text).getLast?, isBlank c = false :=
  visible_last_trimEnd (trimStart text)

/-- **A text is its own trim if neither of its ends is blank.** -/
theorem trim_eq_self_iff {text : List Char} :
    trim text = text ↔ (∀ c ∈ text.head?, isBlank c = false) ∧
      ∀ c ∈ text.getLast?, isBlank c = false := by
  constructor
  · intro h
    rw [← h]
    exact ⟨visible_head_trim text, visible_last_trim text⟩
  · intro h
    obtain ⟨hhead, hlast⟩ := h
    rw [trim, trimStart_eq_self_iff.mpr hhead, trimEnd_eq_self_iff.mpr hlast]

@[simp] theorem trim_trim (text : List Char) : trim (trim text) = trim text :=
  trim_eq_self_iff.mpr ⟨visible_head_trim text, visible_last_trim text⟩

theorem mem_of_mem_trim {text : List Char} {c : Char} (h : c ∈ trim text) : c ∈ text :=
  (trimStart_isSuffix text).subset ((trimEnd_isPrefix (trimStart text)).subset h)

theorem trim_isPrefix {text : List Char} (h : ∀ c ∈ text.head?, isBlank c = false) :
    trim text <+: text := by
  rw [trim, trimStart_eq_self_iff.mpr h]
  exact trimEnd_isPrefix text

theorem trim_isSuffix {text : List Char} (h : ∀ c ∈ text.getLast?, isBlank c = false) :
    trim text <:+ text := by
  have hlast : trimEnd (trimStart text) = trimStart text := by
    rw [trimEnd_eq_self_iff]
    intro c hc
    obtain ⟨before, hbefore⟩ := trimStart_isSuffix text
    apply h
    rw [← hbefore, List.getLast?_append, hc]
    rfl
  rw [trim, hlast]
  exact trimStart_isSuffix text

theorem trim_eq_nil_iff {text : List Char} : trim text = [] ↔ allBlank text = true := by
  constructor
  · intro h
    have hall : ∀ c ∈ trimStart text, isBlank c = true :=
      List.rdropWhile_eq_nil_iff.mp h
    cases hstart : trimStart text with
    | nil => exact List.all_eq_true.mpr (List.dropWhile_eq_nil_iff.mp hstart)
    | cons c rest =>
      have hc := visible_head_trimStart text c (by rw [hstart]; rfl)
      rw [hall c (by simp [hstart])] at hc
      cases hc
  · intro h
    have hstart : trimStart text = [] := List.dropWhile_eq_nil_iff.mpr (List.all_eq_true.mp h)
    rw [trim, hstart]
    rfl

/-- Only blank characters are trimmed off a text. -/
theorem exists_eq_append_trim (text : List Char) :
    ∃ before after, text = before ++ trim text ++ after ∧ allBlank before = true ∧
      allBlank after = true := by
  refine ⟨text.takeWhile isBlank, (trimStart text).rtakeWhile isBlank, ?_, ?_, ?_⟩
  · have hend : trim text = (trimStart text).rdropWhile isBlank := rfl
    rw [hend, List.append_assoc, List.rdropWhile_append_rtakeWhile, trimStart,
      List.takeWhile_append_dropWhile]
  · exact List.all_takeWhile
  · exact List.all_eq_true.mpr fun c hm => List.mem_rtakeWhile_imp hm

/-- A blank character more at the end makes no difference. -/
theorem trim_append_blank {c : Char} (h : isBlank c = true) (text : List Char) :
    trim (text ++ [c]) = trim text := by
  rw [trim, trim, trimStart, trimStart, List.dropWhile_append]
  split
  · next hempty =>
    rw [List.isEmpty_iff.mp hempty]
    simp [h]
  · exact List.rdropWhile_concat_pos isBlank _ c h

end Promptbook.Text
