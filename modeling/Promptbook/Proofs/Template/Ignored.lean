import Promptbook.Proofs.Template.FirstFault

/-! Lines that make no difference.

A comment can stand between any two lines of a text, and a blank line wherever none is kept:
before the first fence, in a header, and at either end of a body (`Ignorable`). A line that
is put in there changes nothing that is read: a reader goes on from the same place, or from a
body that has the same text whatever follows (`outcome_of_body`). So the prompts stay what
they were. A fault stays what it was too, one line further down if it is found behind the line
that was put in (`parse_insert`). -/
namespace Promptbook.Template
open Text

/-! ### Blank lines around a body -/

/-- **Blank lines around lines are trimmed off with those that were there.** -/
theorem trimLines_surrounded {before after : List (List Char)}
    (hbefore : ∀ line ∈ before, allBlank line = true)
    (hafter : ∀ line ∈ after, allBlank line = true) (ls : List (List Char)) :
    trimLines (before ++ ls ++ after) = trimLines ls := by
  obtain ⟨first, last, hcut, hblank⟩ := exists_eq_append_trimLines ls
  have houter : before ++ ls ++ after = (before ++ first) ++ trimLines ls ++ (last ++ after) := by
    conv_lhs => rw [hcut]
    simp only [List.append_assoc]
  have hfirst : ∀ line ∈ before ++ first, allBlank line = true :=
    List.forall_mem_append.mpr ⟨hbefore, fun line hm => hblank line (List.mem_append_left _ hm)⟩
  have hlast : ∀ line ∈ last ++ after, allBlank line = true :=
    List.forall_mem_append.mpr ⟨fun line hm => hblank line (List.mem_append_right _ hm), hafter⟩
  rw [houter, trimLines_append hfirst hlast (head?_trimLines ls) (getLast?_trimLines ls)]

section
variable {blank : List (List Char)}

theorem bodyText_append_blank (h : ∀ line ∈ blank, allBlank line = true) (body : List (List Char)) :
    bodyText (body ++ blank) = bodyText body := by
  have hreverse : ∀ line ∈ blank.reverse, allBlank line = true := fun line hm =>
    h line (List.mem_reverse.mp hm)
  have htrim := trimLines_surrounded hreverse (List.forall_mem_nil _) body.reverse
  rw [List.append_nil] at htrim
  rw [bodyText, bodyText, List.reverse_append, htrim]

theorem bodyText_blank_append (h : ∀ line ∈ blank, allBlank line = true) (body : List (List Char)) :
    bodyText (blank ++ body) = bodyText body := by
  have hreverse : ∀ line ∈ blank.reverse, allBlank line = true := fun line hm =>
    h line (List.mem_reverse.mp hm)
  have htrim := trimLines_surrounded (List.forall_mem_nil _) hreverse body.reverse
  rw [List.nil_append] at htrim
  rw [bodyText, bodyText, List.reverse_append, htrim]

end

/-! ### Readings with bodies of the same text -/

theorem toPrompt_congr {body body' : List (List Char)} (h : bodyText body' = bodyText body)
    (said : Header) (rules : Rules) : said.toPrompt rules body' = said.toPrompt rules body := by
  rw [Header.toPrompt, Header.toPrompt, h]

section
variable {rules : Rules} {n : Nat} {said : Header} {body body' : List (List Char)} {ps : List Prompt}

/-- Where a body ends, its text is all that counts. -/
theorem outcome_of_ended_body (h : bodyText body' = bodyText body) (number : Nat)
    {ls : List (List Char)} (hls : ∀ line ∈ ls.head?, isFence line = true) :
    Reading.outcome rules ⟨.body n said body', ps⟩ number ls =
      Reading.outcome rules ⟨.body n said body, ps⟩ number ls := by
  have hprompt : said.toPrompt rules body' = said.toPrompt rules body := toPrompt_congr h said rules
  cases ls with
  | nil => simp only [Reading.outcome, Reading.run, Reading.finish, hprompt]
  | cons line rest =>
    have hstep : Reading.step rules ⟨.body n said body', ps⟩ number line =
        Reading.step rules ⟨.body n said body, ps⟩ number line := by
      simp only [Reading.step, hls line rfl, if_true, hprompt]
    rw [Reading.outcome, Reading.run, hstep]
    rfl

/-- **A body can be replaced by one that has the same text whatever follows.** -/
theorem outcome_of_body (h : ∀ more, bodyText (more ++ body') = bodyText (more ++ body))
    (number : Nat) (ls : List (List Char)) :
    Reading.outcome rules ⟨.body n said body', ps⟩ number ls =
      Reading.outcome rules ⟨.body n said body, ps⟩ number ls := by
  induction ls generalizing body body' number with
  | nil => exact outcome_of_ended_body (h []) number (by simp)
  | cons line rest ih =>
    cases hf : isFence line with
    | true => exact outcome_of_ended_body (h []) number (by simp [hf])
    | false =>
      rw [Reading.outcome_cons_of_ok (step_body hf body'),
        Reading.outcome_cons_of_ok (step_body hf body)]
      apply ih
      intro more
      rw [← List.append_assoc, ← List.append_assoc, h]

end

/-! ### Lines that are put in -/

/-- A line that makes no difference between these lines and those. -/
inductive Ignorable (before after : List (List Char)) (line : List Char) : Prop where
  | remark (h : Remark line)
  | preamble (h : trim line = []) (hbefore : ∀ l ∈ before, isFence l = false)
  | header (h : trim line = []) (hinside : before.countP isFence % 2 = 1)
  | afterFence (h : trim line = []) (hbefore : ∃ l ∈ before.getLast?, isFence l = true)
  | beforeFence (h : trim line = []) (hafter : ∀ l ∈ after.head?, isFence l = true)

theorem visible_of_isFence {line : List Char} (h : isFence line = true) :
    trim line ≠ [] ∧ ¬Remark line := by
  rw [isFence, Bool.or_eq_true, decide_eq_true_eq, decide_eq_true_eq] at h
  rcases h with rfl | rfl <;> decide

section
variable {before after : List (List Char)} {line : List Char}

/-- Such a line is skipped in a header, and leaves at most blank lines in a body. -/
theorem Ignorable.skipped (h : Ignorable before after line) : trim line = [] ∨ Remark line := by
  cases h with
  | remark h => exact .inr h
  | preamble h | header h | afterFence h | beforeFence h => exact .inl h

theorem Ignorable.not_fence (h : Ignorable before after line) : isFence line = false := by
  cases hf : isFence line with
  | false => rfl
  | true =>
    obtain ⟨hvisible, hplain⟩ := visible_of_isFence hf
    exact absurd h.skipped (not_or.mpr ⟨hvisible, hplain⟩)

theorem Ignorable.blank_shown (h : Ignorable before after line) :
    ∀ l ∈ (shown [line]).reverse, allBlank l = true := by
  intro l hm
  obtain ⟨hl, hplain⟩ := List.mem_filter.mp (List.mem_reverse.mp hm)
  obtain rfl := List.mem_singleton.mp hl
  rcases h.skipped with hblank | hremark
  · exact trim_eq_nil_iff.mp hblank
  · simp [hremark] at hplain

/-- The number of a fence that was read stays what it is if only later ones are counted
differently. -/
theorem Reading.Behind.moved_eq {rules : Rules} {reading : Reading} (hb : reading.Behind rules before)
    {f : Nat → Nat} (hf : ∀ n, n ≤ before.length → f n = n) : reading.moved f [] = reading := by
  cases hb with
  | preamble => rfl
  | @header _ _ _ _ _ n hopens hcut hn =>
    have hfence : f n = n := hf n (by simp [hcut, hn])
    simp [moved, Place.renumber, hfence]
  | @body _ _ _ _ _ _ _ n _ hopens hcut hn =>
    have hfence : f n = n := hf n (by simp [hcut, hn])
    simp [moved, Place.renumber, hfence]

/-- **Behind a line that makes no difference, reading goes on as if it were not there.** -/
theorem outcome_of_ignorable {rules : Rules} (h : Ignorable before after line) {reading : Reading}
    (hrun : Reading.run rules {} 1 before = .ok reading) (number : Nat) :
    reading.outcome rules number (line :: after) = reading.outcome rules (number + 1) after := by
  cases behind_of_run hrun with
  | preamble =>
    apply Reading.outcome_cons_of_ok
    simp [Reading.step, h.not_fence]
  | header =>
    apply Reading.outcome_cons_of_ok
    simp only [Reading.step, h.not_fence, Bool.false_eq_true, if_false, read_of_skipped h.skipped,
      atLine]
  | @body _ _ _ _ _ closing body _ kept _ hcut _ hclosing hbody hkept =>
    have hblank := h.blank_shown
    rw [Reading.outcome_cons_of_ok (step_body h.not_fence kept)]
    cases h with
    | remark h => simp [shown, h]
    | preamble _ hbefore =>
      rw [hbefore closing (by simp [hcut])] at hclosing
      cases hclosing
    | header _ hinside =>
      obtain ⟨_, _, hplace⟩ := (header_iff_odd hrun).mpr hinside
      cases hplace
    | afterFence _ hfence =>
      -- The body has just begun, so the line stands in front of all that it will have.
      obtain ⟨last, hlast, hfence⟩ := hfence
      have hnil : body = [] := by
        by_contra hne
        rw [hcut, List.getLast?_append_cons, List.getLast?_cons_of_ne_nil hne] at hlast
        rw [hbody last (List.mem_of_getLast? hlast)] at hfence
        cases hfence
      have hempty : kept = [] := by rw [hkept, hnil]; rfl
      refine outcome_of_body (fun more => ?_) _ after
      rw [hempty, List.append_nil, List.append_nil, bodyText_append_blank hblank]
    | beforeFence _ hafter => exact outcome_of_ended_body (bodyText_blank_append hblank kept) _ hafter

/-- The number of a line once one more line is put in behind the first `count`. -/
def raised (count number : Nat) : Nat := if number ≤ count then number else number + 1

/-- **A line that makes no difference can be put in between lines.** Only faults behind it are
found one line further down. -/
theorem parseLines_insert (rules : Rules) (h : Ignorable before after line) :
    parseLines rules (before ++ line :: after) =
      moveResult (raised before.length) id (parseLines rules (before ++ after)) := by
  have hfew (n : Nat) (hn : n ≤ before.length) : raised before.length n = n := if_pos hn
  cases hrun : Reading.run rules {} 1 before with
  | error error =>
    have hstopped (rest : List (List Char)) : parseLines rules (before ++ rest) = .error error :=
      Reading.outcome_append_of_error hrun rest
    have hline : error.line ≤ before.length := by
      have hparse := hstopped []
      rw [List.append_nil] at hparse
      exact (breaks_of_parseLines hparse).faultOf.line_mem.2
    rw [hstopped, hstopped, moveResult, ParseError.renumber, hfew error.line hline]
  | ok reading =>
    have hbehind := behind_of_run hrun
    have hnumber (i : Nat) :
        raised before.length (1 + before.length + i) = 1 + before.length + 1 + i := by
      rw [raised, if_neg (by omega)]
      omega
    calc parseLines rules (before ++ line :: after)
        = reading.outcome rules (1 + before.length) (line :: after) :=
          Reading.outcome_append_of_ok hrun _
      _ = reading.outcome rules (1 + before.length + 1) after := outcome_of_ignorable h hrun _
      _ = (reading.moved (raised before.length) []).outcome rules (1 + before.length + 1) after := by
          rw [hbehind.moved_eq hfew]
      _ = moveResult (raised before.length) id
            (reading.outcome rules (1 + before.length) after) :=
          Reading.outcome_moved rules _ [] reading hnumber after
      _ = moveResult (raised before.length) id (parseLines rules (before ++ after)) := by
          rw [parseLines_eq_outcome, Reading.outcome_append_of_ok hrun]

theorem Ignorable.withoutReturn (h : Ignorable before after line) :
    Ignorable before after (withoutReturn line) := by
  have htrim : trim (Text.withoutReturn line) = trim line := trim_withoutReturn line
  cases h with
  | remark h =>
    obtain ⟨text, htext⟩ := h
    exact .remark ⟨text, htrim.trans htext⟩
  | preamble h hbefore => exact .preamble (htrim.trans h) hbefore
  | header h hinside => exact .header (htrim.trans h) hinside
  | afterFence h hbefore => exact .afterFence (htrim.trans h) hbefore
  | beforeFence h hafter => exact .beforeFence (htrim.trans h) hafter

end

/-- **Lines that make no difference can be put in anywhere.** A text that is cut between two
lines gives the same prompts with such a line in the cut, or is refused for the same fault: at
the same line if that stands before the cut, and otherwise one line further down. -/
theorem parse_insert (rules : Rules) {a : String} (ha : a = "" ∨ a.toList.getLast? = some '\n')
    (b : String) {l : String} (hl : '\n' ∉ l.toList)
    (h : Ignorable (lines a.toList) (lines b.toList) l.toList) :
    (∀ prompts, parse rules (a ++ b) = .ok prompts →
      parse rules (a ++ l ++ "\n" ++ b) = .ok prompts) ∧
    (∀ error, parse rules (a ++ b) = .error error →
      parse rules (a ++ l ++ "\n" ++ b) = .error ⟨error.fault,
        if error.line ≤ (lines a.toList).length then error.line else error.line + 1⟩) := by
  have hcut := ha.imp_left String.toList_eq_nil_iff.mpr
  have hwithout : lines (a ++ b).toList = lines a.toList ++ lines b.toList := by
    rw [String.toList_append, lines_append hcut]
  have hwith : lines (a ++ l ++ "\n" ++ b).toList =
      lines a.toList ++ withoutReturn l.toList :: lines b.toList := by
    have hbreak : "\n".toList = ['\n'] := by decide
    simp only [String.toList_append, List.append_assoc, hbreak, List.singleton_append]
    rw [lines_append hcut, lines_append_newline hl]
  simp only [parse, hwith, hwithout, parseLines_insert rules h.withoutReturn]
  refine ⟨fun prompts hprompts => ?_, fun error herror => ?_⟩
  · rw [hprompts]
    rfl
  · rw [herror]
    rfl

/-- A blank line at the start of a body and a comment at its end, behind another blank line; and
a comment in a header, in front of a line at fault and behind a record without a name. -/
theorem parse_insert_notes :
    ("---\nname: A\n---\n".toList.getLast? = some '\n' ∧ '\n' ∉ " \t".toList ∧
      Ignorable (lines "---\nname: A\n---\n".toList) (lines "first\n".toList) " \t".toList) ∧
    parse {} ("---\nname: A\n---\n" ++ " \t" ++ "\n" ++ "first\n") =
      .ok [⟨"A", "first", none, none, none, .empty, none⟩] ∧
    parse {} ("---\nname: A\n---\nfirst\n\n" ++ "<!-- end -->" ++ "\n" ++ "") =
      .ok [⟨"A", "first", none, none, none, .empty, none⟩] ∧
    parse {} ("---\nname: A\n" ++ "<!-- note -->" ++ "\n" ++ "broken\n---\n") =
      .error ⟨.malformedHeader "broken", 3 + 1⟩ ∧
    parse {} ("---\n---\nfirst\n---\n" ++ "<!-- note -->" ++ "\n" ++ "name: B\n---\n") =
      .error ⟨.missingName, 1⟩ := by
  have hstart : "---\nname: A\n---\n".toList.getLast? = some '\n' := by decide +kernel
  have hline : '\n' ∉ " \t".toList := by decide +kernel
  have hblank :
      Ignorable (lines "---\nname: A\n---\n".toList) (lines "first\n".toList) " \t".toList :=
    .afterFence (by decide +kernel) ⟨fence, by decide +kernel, rfl⟩
  have hend : Remark "<!-- end -->".toList := by decide +kernel
  have hnote : Remark "<!-- note -->".toList := by decide +kernel
  refine ⟨⟨hstart, hline, hblank⟩, ?_, ?_, ?_, ?_⟩
  · exact (parse_insert {} (.inr hstart) _ hline hblank).1 _ (by decide +kernel)
  · exact (parse_insert {} (.inr (by decide +kernel)) "" (by decide +kernel) (.remark hend)).1 _
      (by decide +kernel)
  · exact (parse_insert {} (.inr (by decide +kernel)) _ (by decide +kernel) (.remark hnote)).2
      ⟨.malformedHeader "broken", 3⟩ (by decide +kernel)
  · exact (parse_insert {} (.inr (by decide +kernel)) _ (by decide +kernel) (.remark hnote)).2
      ⟨.missingName, 1⟩ (by decide +kernel)

end Promptbook.Template
