import Promptbook.Proofs.Template.LineNumbers

/-! The spellings of a text.

The same lines can be written down in many ways: a fence has two spellings, and so has the break
behind each line (`Spells`). Cutting into lines drops the breaks, whichever they are, so all that
is left of a spelling is how its fences are drawn (`lines_of_spells`). A reader sees of a fence
only that it is one, in every place where it may stand (`step_redrawn`), so it reads all
spellings as the lines themselves (`parse_of_spells`), and none of them can be told from another
by what it gives (`parse_eq_of_spells`). -/
namespace Promptbook.Template
open Text

/-- The spellings of the break behind a line. -/
def lineBreaks : List (List Char) := [['\n'], ['\r', '\n']]

/-- The spellings of a fence. -/
def fenceSpellings : List (List Char) := [['-', '-', '-'], ['_', '_', '_']]

/-- A line as it may be written: a fence in either spelling, and any other line as it is. -/
inductive Redrawn (line : List Char) : List Char → Prop where
  | same : Redrawn line line
  | fence (h : line ∈ fenceSpellings) (hdrawn : drawn ∈ fenceSpellings) : Redrawn line drawn

/-- A text in which these lines are written one after another, each with a break behind it. -/
inductive Spells : List (List Char) → List Char → Prop where
  | nil : Spells [] []
  | cons (h : Redrawn line drawn) (hbreak : ending ∈ lineBreaks) (hrest : Spells ls text) :
      Spells (line :: ls) (drawn ++ ending ++ text)

/-! ### Breaks -/

/-- A line that a break can be put behind. -/
structure Breakable (line : List Char) : Prop where
  oneLine : '\n' ∉ line
  /-- A carriage return would be taken for a part of the break. -/
  unreturned : line.getLast? ≠ some '\r'

theorem withoutReturn_concat (line : List Char) : withoutReturn (line ++ ['\r']) = line := by
  simp [withoutReturn]

theorem breakable_of_fence {line : List Char} (h : line ∈ fenceSpellings) : Breakable line := by
  have hcases : line = ['-', '-', '-'] ∨ line = ['_', '_', '_'] := by simpa [fenceSpellings] using h
  rcases hcases with rfl | rfl <;> exact ⟨by decide, by decide⟩

theorem Redrawn.breakable {line drawn : List Char} (h : Redrawn line drawn) (hline : Breakable line) :
    Breakable drawn := by
  cases h with
  | same => exact hline
  | fence _ hdrawn => exact breakable_of_fence hdrawn

theorem lines_append_break {line ending : List Char} (h : Breakable line)
    (hbreak : ending ∈ lineBreaks) (rest : List Char) :
    lines (line ++ ending ++ rest) = line :: lines rest := by
  have hcases : ending = ['\n'] ∨ ending = ['\r', '\n'] := by simpa [lineBreaks] using hbreak
  rcases hcases with rfl | rfl
  · have hcut := lines_append_newline h.oneLine rest
    rw [withoutReturn_of_ne h.unreturned] at hcut
    simpa using hcut
  · have hnewline : '\n' ∉ line ++ ['\r'] := by simpa using h.oneLine
    have hcut := lines_append_newline hnewline rest
    rw [withoutReturn_concat] at hcut
    simpa using hcut

/-- **The lines of a spelling are those that it spells**, but for how their fences are drawn. -/
theorem lines_of_spells {ls : List (List Char)} {text : List Char} (h : Spells ls text)
    (hls : ∀ line ∈ ls, Breakable line) : List.Forall₂ Redrawn ls (lines text) := by
  induction h with
  | nil => exact lines_nil ▸ .nil
  | cons hdrawn hbreak _ ih =>
    rw [List.forall_mem_cons] at hls
    rw [lines_append_break (hdrawn.breakable hls.1) hbreak]
    exact .cons hdrawn (ih hls.2)

/-! ### Fences -/

theorem isFence_iff {line : List Char} : isFence line = true ↔ line ∈ fenceSpellings := by
  simp [isFence, fenceSpellings]

section
variable (rules : Rules)

/-- **A reader sees of a fence only that it is one.** -/
theorem step_redrawn (reading : Reading) (number : Nat) {line drawn : List Char}
    (h : Redrawn line drawn) :
    reading.step rules number drawn = reading.step rules number line := by
  cases h with
  | same => rfl
  | fence hline hdrawn =>
    rw [← isFence_iff] at hline hdrawn
    obtain ⟨place, prompts⟩ := reading
    cases place <;> simp only [Reading.step, hline, hdrawn, if_true]

theorem outcome_redrawn (reading : Reading) (number : Nat) {ls drawn : List (List Char)}
    (h : List.Forall₂ Redrawn ls drawn) :
    reading.outcome rules number drawn = reading.outcome rules number ls := by
  induction h generalizing reading number with
  | nil => rfl
  | cons hline _ ih =>
    have hstep := step_redrawn rules reading number hline
    cases hread : reading.step rules number _ with
    | error error =>
      rw [Reading.outcome_cons_of_error hread, Reading.outcome_cons_of_error (hstep.symm.trans hread)]
    | ok next =>
      rw [Reading.outcome_cons_of_ok hread, Reading.outcome_cons_of_ok (hstep.symm.trans hread), ih]

/-! ### Texts -/

/-- A spelling is read as the lines that it spells. -/
theorem parse_of_spells {ls : List (List Char)} (hls : ∀ line ∈ ls, Breakable line) {text : String}
    (h : Spells ls text.toList) : parse rules text = parseLines rules ls := by
  rw [parse, parseLines_eq_outcome, parseLines_eq_outcome]
  exact outcome_redrawn rules {} 1 (lines_of_spells h hls)

end

/-- **All spellings of the same lines give the same**: the same prompts, or the same fault at the
same line. Each break can be a line feed or a carriage return and a line feed, and each fence can
be of hyphens or of underscores, whatever the others are. -/
theorem parse_eq_of_spells (rules : Rules) {ls : List (List Char)}
    (hnewline : ∀ line ∈ ls, '\n' ∉ line) (hreturn : ∀ line ∈ ls, line.getLast? ≠ some '\r')
    {a b : String} (ha : Spells ls a.toList) (hb : Spells ls b.toList) :
    parse rules a = parse rules b := by
  have hls : ∀ line ∈ ls, Breakable line := fun line hm => ⟨hnewline line hm, hreturn line hm⟩
  rw [parse_of_spells rules hls ha, parse_of_spells rules hls hb]

/-- The lines of a text with one record. -/
def oneRecord : List (List Char) := [fence, "name: A".toList, fence, "first".toList]

/-- Two spellings of a record, neither of which keeps to one kind of break or of fence. -/
theorem parse_eq_of_spells_record :
    ((∀ line ∈ oneRecord, '\n' ∉ line) ∧ ∀ line ∈ oneRecord, line.getLast? ≠ some '\r') ∧
    (Spells oneRecord "---\r\nname: A\n___\nfirst\r\n".toList ∧
      Spells oneRecord "___\nname: A\r\n---\r\nfirst\n".toList) ∧
    parse {} "---\r\nname: A\n___\nfirst\r\n" = parse {} "___\nname: A\r\n---\r\nfirst\n" ∧
    parse {} "___\nname: A\r\n---\r\nfirst\n" =
      .ok [⟨"A", "first", none, none, none, .empty, none⟩] := by
  have hnewline : ∀ line ∈ oneRecord, '\n' ∉ line := by decide +kernel
  have hreturn : ∀ line ∈ oneRecord, line.getLast? ≠ some '\r' := by decide +kernel
  have hunderscores : Redrawn fence ['_', '_', '_'] := .fence (by decide) (by decide)
  have hfeed : ['\n'] ∈ lineBreaks := by decide
  have hreturnFeed : ['\r', '\n'] ∈ lineBreaks := by decide
  have ha : "---\r\nname: A\n___\nfirst\r\n".toList =
      fence ++ ['\r', '\n'] ++ ("name: A".toList ++ ['\n'] ++
        (['_', '_', '_'] ++ ['\n'] ++ ("first".toList ++ ['\r', '\n'] ++ []))) := by
    decide +kernel
  have hb : "___\nname: A\r\n---\r\nfirst\n".toList =
      ['_', '_', '_'] ++ ['\n'] ++ ("name: A".toList ++ ['\r', '\n'] ++
        (fence ++ ['\r', '\n'] ++ ("first".toList ++ ['\n'] ++ []))) := by
    decide +kernel
  have hspells : Spells oneRecord "---\r\nname: A\n___\nfirst\r\n".toList := by
    rw [ha]
    exact .cons .same hreturnFeed (.cons .same hfeed (.cons hunderscores hfeed
      (.cons .same hreturnFeed .nil)))
  have hspells' : Spells oneRecord "___\nname: A\r\n---\r\nfirst\n".toList := by
    rw [hb]
    exact .cons hunderscores hfeed (.cons .same hreturnFeed (.cons .same hreturnFeed
      (.cons .same hfeed .nil)))
  exact ⟨⟨hnewline, hreturn⟩, ⟨hspells, hspells'⟩,
    parse_eq_of_spells {} hnewline hreturn hspells hspells', by decide +kernel⟩

end Promptbook.Template
