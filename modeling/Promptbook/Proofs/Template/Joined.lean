import Promptbook.Proofs.Template.FirstFault

/-! Texts, one behind the other.

An accepted text can be followed by another that starts with a fence: the fence ends what is
open, so the other text is read as if it stood alone, behind the prompts that are there and
with its lines counted from there (`parseLines_append_of_ok`). A text that is refused stays
refused for the same fault whatever follows, unless the fault is that it ends within a header
(`parseLines_append_of_error`). -/
namespace Promptbook.Template
open Text

/-- **Behind an accepted text, a text that starts with a fence is read as if it stood alone.** -/
theorem parseLines_append_of_ok {rules : Rules} {before ls : List (List Char)}
    {prompts : List Prompt} (h : parseLines rules before = .ok prompts)
    (hfence : ∃ line ∈ ls.head?, isFence line = true) :
    parseLines rules (before ++ ls) =
      moveResult (· + before.length) (prompts ++ ·) (parseLines rules ls) := by
  obtain ⟨line, hline, hfence⟩ := hfence
  obtain ⟨rest, rfl⟩ : ∃ rest, ls = line :: rest := List.head?_eq_some_iff.mp hline
  obtain ⟨last, hrun, hfinish⟩ := run_of_parseLines h
  have hstart : Reading.finish rules {} = .ok [] := rfl
  have hnumber (i : Nat) : 1 + 1 + i + before.length = 1 + before.length + 1 + i := by omega
  -- The fence leaves the same header open in both, but for its number and for the prompts.
  calc parseLines rules (before ++ line :: rest)
      = last.outcome rules (1 + before.length) (line :: rest) :=
        Reading.outcome_append_of_ok hrun _
    _ = Reading.outcome rules ⟨.header (1 + before.length) {}, prompts.reverse⟩
          (1 + before.length + 1) rest :=
        Reading.outcome_cons_of_ok (step_fence hfinish hfence _) rest
    _ = moveResult (· + before.length) (prompts ++ ·)
          (Reading.outcome rules ⟨.header 1 {}, []⟩ (1 + 1) rest) :=
        Reading.outcome_moved rules (· + before.length) prompts ⟨.header 1 {}, []⟩ hnumber rest
    _ = moveResult (· + before.length) (prompts ++ ·) (parseLines rules (line :: rest)) := by
        rw [parseLines_eq_outcome, Reading.outcome_cons_of_ok (step_fence hstart hfence 1)]
        rfl

/-- **What follows a refused text does not rescue it**, unless it ended within a header. -/
theorem parseLines_append_of_error {rules : Rules} {before : List (List Char)} {error : ParseError}
    (h : parseLines rules before = .error error) (hfault : error.fault ≠ .missingClosingFence)
    (ls : List (List Char)) : parseLines rules (before ++ ls) = .error error := by
  rw [parseLines_eq_outcome]
  rw [parseLines] at h
  cases hrun : Reading.run rules {} 1 before with
  | error error' =>
    rw [hrun] at h
    obtain rfl := Except.error.inj h
    exact Reading.outcome_append_of_error hrun ls
  | ok last =>
    rw [hrun] at h
    rw [Reading.outcome_append_of_ok hrun]
    obtain ⟨place, ps⟩ := last
    cases place with
    | preamble => cases h
    | header n said =>
      obtain rfl := Except.error.inj h
      exact absurd rfl hfault
    | body n said body =>
      obtain ⟨hrules, hname, rfl⟩ := nameless_of_finish h
      exact outcome_of_nameless hrules hname n body ps _ ls

/-- **The law of joined texts.** A text that is empty or ends with a line feed, and any other
behind it: if the first is accepted and the other starts with a fence, the prompts of the one
are followed by those of the other, or the other is refused for the same fault, further down by
as many lines as the first has. If the first is refused, and not because it ends within a
header, then it is refused for the very same fault with any text behind it. -/
theorem parse_append (rules : Rules) {a : String} (ha : a = "" ∨ a.toList.getLast? = some '\n')
    (b : String) :
    (∀ prompts, parse rules a = .ok prompts →
      (∃ line ∈ (lines b.toList).head?, isFence line = true) →
      (∀ more, parse rules b = .ok more → parse rules (a ++ b) = .ok (prompts ++ more)) ∧
      (∀ error, parse rules b = .error error →
        parse rules (a ++ b) = .error ⟨error.fault, error.line + (lines a.toList).length⟩)) ∧
    (∀ error, parse rules a = .error error → error.fault ≠ .missingClosingFence →
      parse rules (a ++ b) = .error error) := by
  have hlines : lines (a ++ b).toList = lines a.toList ++ lines b.toList := by
    rw [String.toList_append]
    exact lines_append (ha.imp_left String.toList_eq_nil_iff.mpr) _
  simp only [parse, hlines]
  refine ⟨fun prompts hprompts hfence => ?_, fun error herror hfault =>
    parseLines_append_of_error herror hfault _⟩
  rw [parseLines_append_of_ok hprompts hfence]
  refine ⟨fun more hmore => ?_, fun error herror => ?_⟩
  · rw [hmore]
    rfl
  · rw [herror]
    rfl

/-- Notes with a record behind them, with a record at fault behind them, and notes at fault. -/
theorem parse_append_notes :
    ("---\nname: A\n---\nfirst\n\n".toList.getLast? = some '\n' ∧
      "---\nmodel: m\n---\nfirst\n".toList.getLast? = some '\n') ∧
    parse {} ("---\nname: A\n---\nfirst\n\n" ++ "---\nname: B\n---\nsecond") =
      .ok ([⟨"A", "first", none, none, none, .empty, none⟩] ++
        [⟨"B", "second", none, none, none, .empty, none⟩]) ∧
    parse {} ("---\nname: A\n---\nfirst\n\n" ++ "---\nname: B\nbroken\n---\n") =
      .error ⟨.malformedHeader "broken", 3 + 5⟩ ∧
    parse {} ("---\nmodel: m\n---\nfirst\n" ++ "more\n---\n") = .error ⟨.missingName, 1⟩ := by
  have hnotes : "---\nname: A\n---\nfirst\n\n".toList.getLast? = some '\n' := by decide +kernel
  have hnameless : "---\nmodel: m\n---\nfirst\n".toList.getLast? = some '\n' := by decide +kernel
  have hprompts : parse {} "---\nname: A\n---\nfirst\n\n" =
      .ok [⟨"A", "first", none, none, none, .empty, none⟩] := by
    decide +kernel
  refine ⟨⟨hnotes, hnameless⟩, ?_, ?_, ?_⟩
  · exact ((parse_append {} (.inr hnotes) "---\nname: B\n---\nsecond").1 _ hprompts
      ⟨fence, by decide +kernel, rfl⟩).1 _ (by decide +kernel)
  · exact ((parse_append {} (.inr hnotes) "---\nname: B\nbroken\n---\n").1 _ hprompts
      ⟨fence, by decide +kernel, rfl⟩).2 ⟨.malformedHeader "broken", 3⟩ (by decide +kernel)
  · exact (parse_append {} (.inr hnameless) "more\n---\n").2 _ (by decide +kernel)
      (by decide +kernel)

end Promptbook.Template
