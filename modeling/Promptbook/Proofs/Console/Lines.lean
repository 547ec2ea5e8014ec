import Mathlib.Data.List.DropRight
import Promptbook.Substitution.Console

/-! What a console reads at once.

Octets are cut behind every line feed, and what stands behind the last one is a line of its
own (`CutInLines`). Reading takes the first of these lines, whatever it holds, and leaves the
others (`readLine_of_cut`). What is heard of a line is its text without the breaks at its end,
if it is a text (`Hears`). -/
namespace Promptbook.Substitution.Console
open Text

/-! ### Lines of octets -/

/-- Octets cut behind every line feed. -/
structure CutInLines (lines : List (List UInt8)) (octets : List UInt8) : Prop where
  whole : lines.flatten = octets
  filled : ∀ line ∈ lines, line ≠ []
  /-- A line feed stands nowhere but at the end of a line. -/
  unbroken : ∀ line ∈ lines, 0x0A ∉ line.dropLast
  /-- Only the last line may be without one. -/
  ended : ∀ line ∈ lines.dropLast, line.getLast? = some 0x0A

/-- The lines of octets, each with the line feed that ends it. -/
def octetLines : List UInt8 → List (List UInt8)
  | [] => []
  | octet :: rest =>
    if octet = 0x0A then [octet] :: octetLines rest
    else
      match octetLines rest with
      | [] => [[octet]]
      | line :: more => (octet :: line) :: more

theorem CutInLines.nil : CutInLines [] [] := ⟨rfl, by simp, by simp, by simp⟩

/-- A line that ends with its line feed, and others behind it. -/
theorem CutInLines.cons_newline {lines : List (List UInt8)} {octets : List UInt8}
    (h : CutInLines lines octets) : CutInLines ([0x0A] :: lines) (0x0A :: octets) where
  whole := by rw [List.flatten_cons, h.whole]; rfl
  filled := by
    intro line hline
    rcases List.mem_cons.mp hline with rfl | hline
    · simp
    · exact h.filled line hline
  unbroken := by
    intro line hline
    rcases List.mem_cons.mp hline with rfl | hline
    · simp
    · exact h.unbroken line hline
  ended := by
    intro line hline
    cases lines with
    | nil => cases hline
    | cons next more =>
      rcases List.mem_cons.mp hline with rfl | hline
      · rfl
      · exact h.ended line hline

/-- The first line with one more octet at its start. -/
theorem CutInLines.cons_octet {line : List UInt8} {more : List (List UInt8)} {octets : List UInt8}
    {octet : UInt8} (hne : octet ≠ 0x0A) (h : CutInLines (line :: more) octets) :
    CutInLines ((octet :: line) :: more) (octet :: octets) where
  whole := by rw [← h.whole]; rfl
  filled := by
    intro other hother
    rcases List.mem_cons.mp hother with rfl | hother
    · simp
    · exact h.filled other (List.mem_cons_of_mem _ hother)
  unbroken := by
    intro other hother
    rcases List.mem_cons.mp hother with rfl | hother
    · rw [List.dropLast_cons_of_ne_nil (h.filled line List.mem_cons_self)]
      exact List.not_mem_cons_of_ne_of_not_mem (Ne.symm hne) (h.unbroken line List.mem_cons_self)
    · exact h.unbroken other (List.mem_cons_of_mem _ hother)
  ended := by
    intro other hother
    cases more with
    | nil => cases hother
    | cons next more =>
      rcases List.mem_cons.mp hother with rfl | hother
      · rw [List.getLast?_cons, h.ended line List.mem_cons_self]
        rfl
      · exact h.ended other (List.mem_cons_of_mem _ hother)

theorem CutInLines.singleton {octet : UInt8} : CutInLines [[octet]] [octet] :=
  ⟨rfl, by simp, by simp, by simp⟩

theorem cutInLines_octetLines (octets : List UInt8) : CutInLines (octetLines octets) octets := by
  induction octets with
  | nil => exact .nil
  | cons octet rest ih =>
    rw [octetLines]
    split
    · next heq =>
      subst heq
      exact ih.cons_newline
    · next hne =>
      cases hlines : octetLines rest with
      | nil =>
        rw [hlines] at ih
        obtain rfl : [] = rest := ih.whole
        exact .singleton
      | cons line more =>
        rw [hlines] at ih
        exact ih.cons_octet hne

/-- A line that is no text, and a last line without a line feed. -/
example : octetLines [0x61, 0x0D, 0x0A, 0xFF, 0x0A, 0x62] =
    [[0x61, 0x0D, 0x0A], [0xFF, 0x0A], [0x62]] := by decide

theorem CutInLines.tail {lines : List (List UInt8)} {octets : List UInt8}
    (h : CutInLines lines octets) : CutInLines lines.tail lines.tail.flatten where
  whole := rfl
  filled line hline := h.filled line (List.mem_of_mem_tail hline)
  unbroken line hline := h.unbroken line (List.mem_of_mem_tail hline)
  ended line hline := by
    cases lines with
    | nil => cases hline
    | cons first more =>
      cases more with
      | nil => cases hline
      | cons next more => exact h.ended line (List.mem_cons_of_mem _ hline)

/-- What is left of lines behind some of them is cut in lines, too. -/
theorem CutInLines.drop {lines : List (List UInt8)} {octets : List UInt8}
    (h : CutInLines lines octets) (n : Nat) : CutInLines (lines.drop n) (lines.drop n).flatten := by
  induction n generalizing lines octets with
  | zero => exact h.whole ▸ h
  | succ n ih =>
    rw [← List.drop_tail]
    exact ih h.tail

/-! ### Reading -/

theorem cutLine_of_newline {line : List UInt8} (h : 0x0A ∉ line) (rest : List UInt8) :
    cutLine (line ++ 0x0A :: rest) = (line ++ [0x0A], rest) := by
  induction line with
  | nil => rfl
  | cons octet line ih =>
    obtain ⟨hne, hline⟩ := List.ne_and_not_mem_of_not_mem_cons h
    rw [List.cons_append, cutLine, if_neg (Ne.symm hne), ih hline]
    rfl

theorem cutLine_of_no_newline {line : List UInt8} (h : 0x0A ∉ line) :
    cutLine line = (line, []) := by
  induction line with
  | nil => rfl
  | cons octet line ih =>
    obtain ⟨hne, hline⟩ := List.ne_and_not_mem_of_not_mem_cons h
    rw [cutLine, if_neg (Ne.symm hne), ih hline]

/-- The first line is what is cut off. -/
theorem CutInLines.cutLine_eq {line : List UInt8} {more : List (List UInt8)} {octets : List UInt8}
    (h : CutInLines (line :: more) octets) : cutLine octets = (line, more.flatten) := by
  have hfilled := h.filled line List.mem_cons_self
  obtain ⟨init, last, rfl⟩ := (List.eq_nil_or_concat line).resolve_left hfilled
  rw [List.concat_eq_append] at *
  have hinit : 0x0A ∉ init := by simpa using h.unbroken _ List.mem_cons_self
  rw [← h.whole, List.flatten_cons]
  by_cases hlast : last = 0x0A
  · subst hlast
    rw [List.append_assoc]
    exact cutLine_of_newline hinit more.flatten
  · -- a line without a line feed is the last one
    cases more with
    | nil =>
      have hline : 0x0A ∉ init ++ [last] := by simp [hinit, Ne.symm hlast]
      simpa using cutLine_of_no_newline hline
    | cons next more =>
      have hended := h.ended (init ++ [last]) (by simp)
      rw [List.getLast?_concat] at hended
      exact absurd (Option.some.inj hended) hlast

/-- What is heard of a line: the end of the input where there is none, a failure if it is no
text, and else its text up to the breaks at its end. -/
inductive Hears : Option (List UInt8) → Except SourceError (Option String) → Prop where
  | ended : Hears none (.ok none)
  | garbled {line : List UInt8} {fault : Utf8Fault} (h : decodeUtf8 line = .error fault) :
      Hears (some line) (.error (.io fault.message))
  | said {line : List UInt8} {answer breaks : List Char}
      (h : decodeUtf8 line = .ok (String.ofList (answer ++ breaks)))
      (hbreaks : ∀ c ∈ breaks, c = '\r' ∨ c = '\n')
      (hanswer : ∀ c ∈ answer.getLast?, c ≠ '\r' ∧ c ≠ '\n') :
      Hears (some line) (.ok (some (String.ofList answer)))

/-- A text is what is left without the breaks at its end, and breaks. -/
theorem exists_breaks (text : String) :
    ∃ answer breaks, text = String.ofList (answer ++ breaks) ∧
      withoutBreak text = String.ofList answer ∧ (∀ c ∈ breaks, c = '\r' ∨ c = '\n') ∧
      ∀ c ∈ answer.getLast?, c ≠ '\r' ∧ c ≠ '\n' := by
  refine ⟨text.toList.rdropWhile fun c => c = '\r' || c = '\n',
    text.toList.rtakeWhile fun c => c = '\r' || c = '\n', ?_, rfl, ?_, ?_⟩
  · rw [List.rdropWhile_append_rtakeWhile, String.ofList_toList]
  · intro c hc
    simpa using List.mem_rtakeWhile_imp hc
  · intro c hc
    obtain ⟨hne, rfl⟩ := List.mem_getLast?_eq_getLast hc
    simpa using List.rdropWhile_last_not _ _ hne

theorem withoutBreak_append {answer breaks : List Char}
    (hbreaks : ∀ c ∈ breaks, c = '\r' ∨ c = '\n')
    (hanswer : ∀ c ∈ answer.getLast?, c ≠ '\r' ∧ c ≠ '\n') :
    withoutBreak (String.ofList (answer ++ breaks)) = String.ofList answer := by
  have hdropped : (answer ++ breaks).rdropWhile (fun c => c = '\r' || c = '\n') = answer := by
    rw [List.rdropWhile, List.reverse_append, List.dropWhile_append_of_pos fun c hc => by
      simpa using hbreaks c (List.mem_reverse.mp hc)]
    refine List.rdropWhile_eq_self_iff.mpr fun hne => ?_
    simpa using hanswer _ (List.getLast?_eq_some_getLast hne)
  rw [withoutBreak, String.toList_ofList]
  exact congrArg String.ofList hdropped

/-- One thing is heard of a line. -/
theorem Hears.unique {line : Option (List UInt8)}
    {heard heard' : Except SourceError (Option String)}
    (h : Hears line heard) (h' : Hears line heard') : heard = heard' := by
  cases h with
  | ended => cases h'; rfl
  | garbled hfault =>
    cases h' with
    | garbled hfault' => rw [Except.error.inj (hfault.symm.trans hfault')]
    | said htext => cases hfault.symm.trans htext
  | said htext hbreaks hanswer =>
    cases h' with
    | garbled hfault => cases hfault.symm.trans htext
    | said htext' hbreaks' hanswer' =>
      rw [← withoutBreak_append hbreaks hanswer, ← withoutBreak_append hbreaks' hanswer',
        Except.ok.inj (htext.symm.trans htext')]

/-- **Reading takes the next line and nothing else**, also if it is no text; at the end it
takes nothing. -/
theorem readLine_of_cut {lines : List (List UInt8)} {console : Console}
    (h : CutInLines lines console.unread) :
    ∃ heard after, readLine console = (heard, after) ∧ Hears lines.head? heard ∧
      after.unread = lines.tail.flatten ∧ after.written = console.written ∧
      after.registers = console.registers ∧ after.filetype = console.filetype := by
  cases lines with
  | nil =>
    have hunread : console.unread = [] := h.whole.symm
    refine ⟨.ok none, { console with exhausted := true }, ?_, .ended, hunread, rfl, rfl, rfl⟩
    rw [readLine, hunread]
    rfl
  | cons line more =>
    have hline : line.isEmpty = false := by
      simpa using h.filled line List.mem_cons_self
    rw [readLine, h.cutLine_eq]
    simp only [hline, Bool.false_eq_true, if_false]
    cases hdecode : decodeUtf8 line with
    | error fault => exact ⟨_, _, rfl, .garbled hdecode, rfl, rfl, rfl, rfl⟩
    | ok text =>
      obtain ⟨answer, breaks, rfl, hanswer, hbreaks, hlast⟩ := exists_breaks text
      refine ⟨_, _, rfl, ?_, rfl, rfl, rfl, rfl⟩
      rw [hanswer]
      exact .said hdecode hbreaks hlast

end Promptbook.Substitution.Console
