import Promptbook.Proofs.Template.Grammar
import Promptbook.Proofs.Template.Standing

/-! What can be wrong with a text.

A header line is refused if it is neither skipped nor an entry, or if it is an entry whose
value makes no sense for its key (`Refused`, `read_eq_error_iff`). A record can be without a
closing fence, and without a name where names are asked for (`FaultOf`). Each fault has a
line of its own; a text can have many of them, and an accepted text has none
(`not_faultOf_of_parseLines`). -/
namespace Promptbook.Template
open Text

/-! ### Refused lines -/

/-- What is wrong with a line that a header cannot have. -/
inductive Refused (line : List Char) : Fault → Prop where
  | malformed (hvisible : trim line ≠ []) (hplain : ¬Remark line)
      (h : ∀ key value, ¬Entry line key value) :
      Refused line (.malformedHeader (String.ofList (trim line)))
  | extract (h : Entry line "extract".toList value)
      (hrefused : Pattern.accepts (unescape value) = false) :
      Refused line (.invalidExtract (String.ofList (unescape value)))
  | paste (h : Entry line "paste".toList value)
      (hrefused : ∀ mode : PasteMode, value ≠ mode.text.toList) :
      Refused line (.invalidPaste (PasteMode.refusal (String.ofList value)))

theorem Entry.trim_ne_nil {line key value : List Char} (h : Entry line key value) :
    trim line ≠ [] := by
  obtain ⟨before, after, hline, -⟩ := h.split
  simp [hline]

theorem Refused.visible {line : List Char} {fault : Fault} (h : Refused line fault) :
    trim line ≠ [] ∧ ¬Remark line := by
  cases h with
  | malformed hvisible hplain _ => exact ⟨hvisible, hplain⟩
  | extract h _ => exact ⟨h.trim_ne_nil, h.plain⟩
  | paste h _ => exact ⟨h.trim_ne_nil, h.plain⟩

theorem refused_of_set {header : Header} {line key value : List Char} {fault : Fault}
    (hentry : Entry line key value) (h : header.set key value = .error fault) :
    Refused line fault := by
  unfold Header.set at h
  split at h
  · cases h
  split at h
  · cases h
  split at h
  · next hextract =>
    simp only at h
    split at h
    · cases h
    · next hrefused =>
      obtain rfl := Except.error.inj h
      exact .extract (hextract ▸ hentry) (by simpa using hrefused)
  split at h
  · next hpaste =>
    split at h
    · cases h
    · next hnone =>
      obtain rfl := Except.error.inj h
      refine .paste (hpaste ▸ hentry) fun mode hvalue => ?_
      rw [hvalue, String.ofList_toList, PasteMode.ofText?_text] at hnone
      cases hnone
  · cases h

theorem read_of_malformed (header : Header) {line : List Char} (hvisible : trim line ≠ [])
    (hplain : ¬Remark line) (h : ∀ key value, ¬Entry line key value) :
    header.read (trim line) = .error (.malformedHeader (String.ofList (trim line))) := by
  have hskip : ¬(trim line = [] ∨ isComment (trim line) = true) := by
    rw [isComment_trim_iff]
    exact not_or.mpr ⟨hvisible, hplain⟩
  have hpair : Header.pair? (trim line) = none := by
    rw [Option.eq_none_iff_forall_ne_some]
    exact fun pair hp => h pair.1 pair.2 (entry_iff.mpr ⟨hplain, hp⟩)
  rw [Header.read, if_neg hskip, hpair]

/-- **A line is refused for what is wrong with it, whatever the header has said before.** -/
theorem read_eq_error_iff {header : Header} {line : List Char} {fault : Fault} :
    header.read (trim line) = .error fault ↔ Refused line fault := by
  constructor
  · intro h
    by_cases hskip : trim line = [] ∨ Remark line
    · rw [read_of_skipped hskip] at h
      cases h
    · rw [not_or] at hskip
      by_cases hentry : ∃ key value, Entry line key value
      · obtain ⟨key, value, hentry⟩ := hentry
        rw [read_of_entry hentry] at h
        exact refused_of_set hentry h
      · push Not at hentry
        rw [read_of_malformed header hskip.1 hskip.2 hentry] at h
        obtain rfl := Except.error.inj h
        exact .malformed hskip.1 hskip.2 hentry
  · intro h
    cases h with
    | malformed hvisible hplain h => exact read_of_malformed header hvisible hplain h
    | extract h hrefused =>
      rw [read_of_entry h, Header.set, if_neg (by decide +kernel), if_neg (by decide +kernel),
        if_pos rfl]
      exact if_neg (by simp [hrefused])
    | @paste value h hrefused =>
      have hnone : PasteMode.ofText? (String.ofList value) = none := by
        rw [Option.eq_none_iff_forall_ne_some]
        intro mode hmode
        apply hrefused mode
        rw [← ofText?_eq_some_iff.mp hmode, String.toList_ofList]
      rw [read_of_entry h, Header.set, if_neg (by decide +kernel), if_neg (by decide +kernel),
        if_neg (by decide +kernel), if_pos rfl, hnone]

theorem Refused.unique {line : List Char} {fault fault' : Fault} (h : Refused line fault)
    (h' : Refused line fault') : fault' = fault := by
  have hread : Header.read {} (trim line) = .error fault' := read_eq_error_iff.mpr h'
  rw [read_eq_error_iff.mpr h] at hread
  exact (Except.error.inj hread).symm

/-- A line is one that a header can have, or is refused. -/
theorem headerLine_or_refused (line : List Char) :
    HeaderLine line ∨ ∃ fault, Refused line fault := by
  cases hread : Header.read {} (trim line) with
  | ok next => exact .inl ((exists_read {}).mp ⟨next, hread⟩)
  | error fault => exact .inr ⟨fault, read_eq_error_iff.mp hread⟩

theorem Refused.not_headerLine {line : List Char} {fault : Fault} (h : Refused line fault) :
    ¬HeaderLine line := by
  intro hline
  obtain ⟨next, hnext⟩ := (exists_read {}).mpr hline
  rw [read_eq_error_iff.mpr h] at hnext
  cases hnext

/-! ### Faults of a text -/

/-- What is wrong with a text, and at which line. A line with an even number of fences before
it stands outside of headers, and a fence there opens one. -/
inductive FaultOf (rules : Rules) (ls : List (List Char)) : ParseError → Prop where
  | line (hcut : ls = before ++ line :: after) (hinside : before.countP isFence % 2 = 1)
      (hfence : isFence line = false) (hrefused : Refused line fault) :
      FaultOf rules ls ⟨fault, before.length + 1⟩
  | unclosed (hcut : ls = before ++ opening :: header) (houtside : before.countP isFence % 2 = 0)
      (hopening : isFence opening = true) (hheader : ∀ line ∈ header, isFence line = false) :
      FaultOf rules ls ⟨.missingClosingFence, before.length + 1⟩
  | nameless (hrules : rules.requireName = true) (hcut : ls = before ++ opening :: (header ++ after))
      (houtside : before.countP isFence % 2 = 0) (hopening : isFence opening = true)
      (hheader : ∀ line ∈ header, isFence line = false)
      (hafter : ∀ line ∈ after.head?, isFence line = true)
      (hname : ∀ line ∈ header, ∀ value, ¬Entry line "name".toList value) :
      FaultOf rules ls ⟨.missingName, before.length + 1⟩

/-- **A fault is found at a line of the text.** -/
theorem FaultOf.line_mem {rules : Rules} {ls : List (List Char)} {error : ParseError}
    (h : FaultOf rules ls error) : 1 ≤ error.line ∧ error.line ≤ ls.length := by
  cases h with
  | line hcut | unclosed hcut | nameless _ hcut =>
    subst hcut
    simp only [List.length_append, List.length_cons]
    omega

/-! ### Accepted texts -/

theorem toPrompt_eq_error {header : Header} {rules : Rules} {body : List (List Char)}
    {fault : Fault} : header.toPrompt rules body = .error fault ↔
      fault = .missingName ∧ rules.requireName = true ∧ header.name = none := by
  rw [Header.toPrompt]
  cases header.name with
  | some name => simp
  | none => cases rules.requireName <;> simp [eq_comm (b := fault)]

/-- A record without a name is refused whatever its body says, and whatever follows. -/
theorem outcome_of_nameless {rules : Rules} (hrules : rules.requireName = true) {said : Header}
    (hname : said.name = none) (n : Nat) (body : List (List Char)) (ps : List Prompt) (number : Nat)
    (ls : List (List Char)) :
    Reading.outcome rules ⟨.body n said body, ps⟩ number ls = .error ⟨.missingName, n⟩ := by
  have hprompt (body : List (List Char)) : said.toPrompt rules body = .error .missingName :=
    toPrompt_eq_error.mpr ⟨rfl, hrules, hname⟩
  induction ls generalizing body number with
  | nil => simp only [Reading.outcome, Reading.run, Reading.finish, hprompt, atLine]
  | cons line rest ih =>
    cases hfence : isFence line with
    | true =>
      apply Reading.outcome_cons_of_error
      simp only [Reading.step, hfence, if_true, hprompt, atLine]
    | false =>
      rw [Reading.outcome_cons_of_ok (step_body hfence body)]
      exact ih _ (number + 1)

theorem countP_opened {before header : List (List Char)} {opening : List Char}
    (hopening : isFence opening = true) (hheader : ∀ line ∈ header, isFence line = false) :
    (before ++ opening :: header).countP isFence = before.countP isFence + 1 := by
  rw [List.countP_append, List.countP_cons_of_pos hopening, countP_isFence_eq_zero hheader]

/-- **An accepted text has no fault.** -/
theorem not_faultOf_of_parseLines {rules : Rules} {ls : List (List Char)} {prompts : List Prompt}
    (h : parseLines rules ls = .ok prompts) (error : ParseError) : ¬FaultOf rules ls error := by
  intro hfault
  obtain ⟨last, hrun, -⟩ := run_of_parseLines h
  have hcount := countP_isFence_of_parseLines h
  cases hfault with
  | line hcut hinside hfence hrefused =>
    subst hcut
    obtain ⟨⟨place, ps⟩, hbefore, hrest⟩ := Reading.run_append_eq_ok hrun
    obtain ⟨n, said, rfl⟩ := (header_iff_odd hbefore).mpr hinside
    obtain ⟨next, hstep, -⟩ := Reading.run_cons_eq_ok hrest
    cases moves_of_step hstep with
    | said _ hread =>
      rw [read_eq_error_iff.mpr hrefused] at hread
      cases hread
    | closed hclosing =>
      rw [hfence] at hclosing
      cases hclosing
  | unclosed hcut houtside hopening hheader =>
    rw [hcut, countP_opened hopening hheader] at hcount
    omega
  | @nameless before opening header after hrules hcut houtside hopening hheader hafter hname =>
    cases after with
    | nil =>
      rw [hcut, List.append_nil, countP_opened hopening hheader] at hcount
      omega
    | cons closing after =>
      -- The header of this record was read without a name, and then it was closed.
      subst hcut
      obtain ⟨reading, hbefore, hrest⟩ := Reading.run_append_eq_ok hrun
      obtain ⟨opened, hstep, hrest⟩ := Reading.run_cons_eq_ok hrest
      obtain ⟨ps, rfl⟩ := header_of_step hbefore houtside hopening hstep
      obtain ⟨read, hread, hrest⟩ := Reading.run_append_eq_ok hrest
      obtain ⟨said, hall, rfl⟩ := readAll_of_run hheader hread
      have hnone : said.name = none := by
        by_contra hne
        obtain ⟨line, hm, value, hentry⟩ := (holds_of_readAll hall).name_ne_none.mp hne
        exact hname line hm value hentry
      rw [parseLines_eq_outcome, Reading.outcome_append_of_ok hbefore,
        Reading.outcome_cons_of_ok hstep, Reading.outcome_append_of_ok hread,
        Reading.outcome_cons_of_ok (step_closing (hafter closing rfl)),
        outcome_of_nameless hrules hnone] at h
      cases h

end Promptbook.Template
