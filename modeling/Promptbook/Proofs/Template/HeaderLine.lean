import Mathlib.Data.List.TakeDrop
import Promptbook.Template.Parser
import Promptbook.Proofs.Text.Cut
import Promptbook.Proofs.Text.Trim

/-! Header lines, written and read.

A key and a value can stand on a header line if neither is changed by trimming, the key
has no colon, and the line is not taken for a comment (`Pairable`). These are exactly the
pairs that header lines are read as: such a pair comes back from its line
(`read_pairLine`), and whatever a line is read as is such a pair (`pairable_of_pair?`). -/
namespace Promptbook.Template
open Text

/-- A text that a header line can hold: visible at both ends, and on one line. -/
structure HeaderText (text : List Char) : Prop where
  nonempty : text ≠ []
  trimmed : trim text = text
  oneLine : '\n' ∉ text

/-- A key and a value that can stand on a header line. -/
structure Pairable (key value : List Char) : Prop where
  keyText : HeaderText key
  valueText : HeaderText value
  colon : ':' ∉ key
  uncommented : ¬(commentStart <+: key ∧ commentEnd <:+ value)

/-- A header line, without its line feed. -/
def pairLine (key value : List Char) : List Char := key ++ ':' :: ' ' :: value

theorem HeaderText.visible_head {text : List Char} (h : HeaderText text) :
    ∀ c ∈ text.head?, isBlank c = false := (trim_eq_self_iff.mp h.trimmed).1

theorem HeaderText.visible_last {text : List Char} (h : HeaderText text) :
    ∀ c ∈ text.getLast?, isBlank c = false := (trim_eq_self_iff.mp h.trimmed).2

/-- What trimming leaves of a part of a line, if it leaves anything. -/
theorem headerText_trim {text : List Char} (hne : trim text ≠ []) (hn : '\n' ∉ text) :
    HeaderText (trim text) :=
  ⟨hne, trim_trim text, fun h => hn (mem_of_mem_trim h)⟩

/-! ### Comments -/

theorem prefix_of_prefix_append_cons {word before after : List Char} {c : Char} (hc : c ∉ word)
    (h : word <+: before ++ c :: after) : word <+: before := by
  obtain ⟨rest, hrest⟩ := h
  obtain ⟨more, rfl, -⟩ := eq_append_of_not_mem hrest hc
  exact List.prefix_append word more

theorem suffix_of_suffix_append_cons {word before after : List Char} {c : Char} (hc : c ∉ word)
    (h : word <:+ before ++ c :: after) : word <:+ after := by
  rw [← List.reverse_prefix] at h ⊢
  rw [List.reverse_append, List.reverse_cons, List.append_assoc] at h
  exact prefix_of_prefix_append_cons (fun hm => hc (List.mem_reverse.mp hm)) h

theorem isComment_iff {line : List Char} :
    isComment line = true ↔ commentStart <+: line ∧ commentEnd <:+ line ∧
      commentStart.length + commentEnd.length ≤ line.length := by
  simp only [isComment, Bool.and_eq_true, decide_eq_true_eq, List.isPrefixOf_iff_prefix,
    List.isSuffixOf_iff_suffix, and_assoc]

/-- A header line is taken for a comment if its key opens one and its value closes one. -/
theorem isComment_pairLine {key value : List Char} :
    isComment (pairLine key value) = true ↔ commentStart <+: key ∧ commentEnd <:+ value := by
  rw [isComment_iff, pairLine]
  constructor
  · intro h
    obtain ⟨hstart, hend, -⟩ := h
    refine ⟨prefix_of_prefix_append_cons (by decide) hstart, ?_⟩
    have hvalue : commentEnd <:+ [] ++ ' ' :: value := suffix_of_suffix_append_cons (by decide) hend
    exact suffix_of_suffix_append_cons (by decide) hvalue
  · intro h
    obtain ⟨hstart, hend⟩ := h
    refine ⟨hstart.trans (List.prefix_append key _), ?_, ?_⟩
    · exact hend.trans ⟨key ++ [':', ' '], by simp⟩
    · have hkey := hstart.length_le
      have hvalue := hend.length_le
      rw [List.length_append, List.length_cons, List.length_cons]
      omega

/-! ### Writing and reading a line -/

theorem trim_pairLine {key value : List Char} (h : Pairable key value) :
    trim (pairLine key value) = pairLine key value := by
  obtain ⟨c, rest, hkey⟩ := List.exists_cons_of_ne_nil h.keyText.nonempty
  refine trim_eq_self_iff.mpr ⟨fun d hd => ?_, fun d hd => ?_⟩
  · apply h.keyText.visible_head
    rw [hkey]
    rw [pairLine, hkey] at hd
    exact hd
  · apply h.valueText.visible_last
    rw [pairLine, List.getLast?_append, List.getLast?_cons_cons,
      List.getLast?_cons_of_ne_nil h.valueText.nonempty] at hd
    cases hlast : value.getLast? with
    | none => exact absurd (List.getLast?_eq_none_iff.mp hlast) h.valueText.nonempty
    | some e => rwa [hlast] at hd

theorem pair?_pairLine {key value : List Char} (h : Pairable key value) :
    Header.pair? (pairLine key value) = some (key, value) := by
  have hspan : (pairLine key value).span (· != ':') = (key, ':' :: ' ' :: value) := by
    rw [List.span_eq_takeWhile_dropWhile, pairLine, takeWhile_append_cons h.colon,
      dropWhile_append_cons h.colon]
  have hvalue : trim (' ' :: value) = value := by
    rw [trim, trimStart_of_blank (by decide), ← trim, h.valueText.trimmed]
  rw [Header.pair?, hspan]
  simp only [h.keyText.trimmed, hvalue, h.keyText.nonempty, h.valueText.nonempty, or_self, if_false]

/-- **A pair that can stand on a header line comes back from it.** -/
theorem read_pairLine {key value : List Char} (h : Pairable key value) (header : Header) :
    header.read (trim (pairLine key value)) = header.set key value := by
  have hcomment : isComment (pairLine key value) = false := by
    rw [← Bool.not_eq_true, isComment_pairLine]
    exact h.uncommented
  have hne : pairLine key value ≠ [] := by simp [pairLine]
  rw [trim_pairLine h, Header.read, if_neg (by simp [hne, hcomment]), pair?_pairLine h]

theorem isFence_pairLine (key value : List Char) : isFence (pairLine key value) = false := by
  have hcolon : ':' ∈ pairLine key value := by simp [pairLine]
  rw [← Bool.not_eq_true, isFence, Bool.or_eq_true, decide_eq_true_eq, decide_eq_true_eq]
  intro h
  rcases h with h | h <;> simp [h] at hcolon

theorem newline_not_mem_pairLine {key value : List Char} (h : Pairable key value) :
    '\n' ∉ pairLine key value := by
  simp [pairLine, h.keyText.oneLine, h.valueText.oneLine]

/-- A pair is read off the two sides of the first colon. -/
theorem pair?_eq_some {line key value : List Char} (h : Header.pair? line = some (key, value)) :
    ∃ before after, line = before ++ ':' :: after ∧ ':' ∉ before ∧ key = trim before ∧
      value = trim after ∧ key ≠ [] ∧ value ≠ [] := by
  rw [Header.pair?, List.span_eq_takeWhile_dropWhile] at h
  cases hdrop : line.dropWhile (· != ':') with
  | nil =>
    rw [hdrop] at h
    cases h
  | cons c after =>
    obtain rfl := eq_of_dropWhile_eq_cons hdrop
    rw [hdrop] at h
    simp only at h
    split at h
    · cases h
    · next hne =>
      rw [not_or] at hne
      obtain ⟨rfl, rfl⟩ := Prod.mk.inj (Option.some.inj h)
      refine ⟨line.takeWhile (· != ':'), after, ?_, not_mem_takeWhile _ _, rfl, rfl, hne.1, hne.2⟩
      rw [← hdrop, List.takeWhile_append_dropWhile]

/-- **Whatever a header line is read as can stand on one.** -/
theorem pairable_of_pair? {line key value : List Char} (ht : trim line = line) (hn : '\n' ∉ line)
    (hc : isComment line = false) (h : Header.pair? line = some (key, value)) :
    Pairable key value := by
  obtain ⟨hhead, hlast⟩ := trim_eq_self_iff.mp ht
  obtain ⟨before, after, rfl, hcolon, rfl, rfl, hkey, hvalue⟩ := pair?_eq_some h
  have hnewline : '\n' ∉ before ∧ '\n' ∉ after := by simpa using hn
  refine ⟨headerText_trim hkey hnewline.1, headerText_trim hvalue hnewline.2,
    fun hm => hcolon (mem_of_mem_trim hm), ?_⟩
  intro h
  obtain ⟨hstart, hend⟩ := h
  have hbefore : trim before <+: before := by
    apply trim_isPrefix
    intro c hm
    apply hhead
    cases before with
    | nil => cases hm
    | cons d before => exact hm
  have hafter : trim after <:+ after := by
    apply trim_isSuffix
    intro c hm
    apply hlast
    have hne : after ≠ [] := by
      intro h
      subst h
      cases hm
    rw [List.getLast?_append, List.getLast?_cons_of_ne_nil hne, hm]
    rfl
  have hlength := (hstart.trans hbefore).length_le
  have hlength' := (hend.trans hafter).length_le
  have hcomment : isComment (before ++ ':' :: after) = true := by
    refine isComment_iff.mpr ⟨(hstart.trans hbefore).trans (List.prefix_append _ _), ?_, ?_⟩
    · exact (hend.trans hafter).trans ⟨before ++ [':'], by simp⟩
    · rw [List.length_append, List.length_cons]
      omega
  rw [hc] at hcomment
  cases hcomment

end Promptbook.Template
