import Promptbook.Proofs.Template.Faults

/-! The first fault of a text.

A refused text is read up to one of its faults. Every record before is accepted, and every
header line before could be read (`breaks_of_parseLines`), so the fault that is reported
comes before all others: records are looked at in the order of the text, and of each its
header lines from top to bottom, then its closing fence, then its name (`Earlier`). The first
fault in this order is the one that a text is refused for (`parseLines_eq_error_iff`). -/
namespace Promptbook.Template
open Text

/-! ### Where a reader stops -/

/-- What one line does to a reading that it ends. -/
inductive Stops (rules : Rules) (number : Nat) (line : List Char) : Reading → ParseError → Prop where
  | refused (h : isFence line = false) (hr : Refused line fault) :
      Stops rules number line ⟨.header n said, ps⟩ ⟨fault, number⟩
  | nameless (h : isFence line = true) (hrules : rules.requireName = true)
      (hname : said.name = none) :
      Stops rules number line ⟨.body n said body, ps⟩ ⟨.missingName, n⟩

theorem eq_of_atLine {line : Nat} {result : Except Fault α} {error : ParseError}
    (h : atLine line result = .error error) :
    ∃ fault, result = .error fault ∧ error = ⟨fault, line⟩ := by
  cases result with
  | ok value => cases h
  | error fault => exact ⟨fault, rfl, (Except.error.inj h).symm⟩

/-- **Everything by which a line can end a reading.** -/
theorem stops_of_step {rules : Rules} {number : Nat} {line : List Char} {reading : Reading}
    {error : ParseError} (h : reading.step rules number line = .error error) :
    Stops rules number line reading error := by
  obtain ⟨place, ps⟩ := reading
  cases place with
  | preamble => cases h
  | header n said =>
    rw [Reading.step] at h
    simp only at h
    split at h
    · cases h
    · next hf =>
      cases hread : atLine number (said.read (trim line)) with
      | ok next =>
        rw [hread] at h
        cases h
      | error error' =>
        rw [hread] at h
        obtain rfl := Except.error.inj h
        obtain ⟨fault, hrefused, rfl⟩ := eq_of_atLine hread
        exact .refused (by simpa using hf) (read_eq_error_iff.mp hrefused)
  | body n said body =>
    rw [Reading.step] at h
    simp only at h
    split at h
    · next hf =>
      cases hprompt : atLine n (said.toPrompt rules body) with
      | ok prompt =>
        rw [hprompt] at h
        cases h
      | error error' =>
        rw [hprompt] at h
        obtain rfl := Except.error.inj h
        obtain ⟨fault, hnone, rfl⟩ := eq_of_atLine hprompt
        obtain ⟨rfl, hrules, hname⟩ := toPrompt_eq_error.mp hnone
        exact .nameless hf hrules hname
    · split at h <;> cases h

/-- A body that cannot end the text is one of a record without a name. -/
theorem nameless_of_finish {rules : Rules} {n : Nat} {said : Header} {body : List (List Char)}
    {ps : List Prompt} {error : ParseError}
    (h : Reading.finish rules ⟨.body n said body, ps⟩ = .error error) :
    rules.requireName = true ∧ said.name = none ∧ error = ⟨.missingName, n⟩ := by
  simp only [Reading.finish] at h
  cases hprompt : said.toPrompt rules body with
  | ok prompt =>
    rw [hprompt] at h
    cases h
  | error fault =>
    rw [hprompt] at h
    obtain ⟨rfl, hrules, hname⟩ := toPrompt_eq_error.mp hprompt
    exact ⟨hrules, hname, (Except.error.inj h).symm⟩

theorem Reading.run_eq_error {rules : Rules} {reading : Reading} {number : Nat}
    {ls : List (List Char)} {error : ParseError} (h : reading.run rules number ls = .error error) :
    ∃ before line after next, ls = before ++ line :: after ∧
      reading.run rules number before = .ok next ∧
      Stops rules (number + before.length) line next error := by
  induction ls generalizing reading number with
  | nil => cases h
  | cons line rest ih =>
    rw [run] at h
    cases hstep : reading.step rules number line with
    | error error' =>
      rw [hstep] at h
      obtain rfl := Except.error.inj h
      exact ⟨[], line, rest, reading, rfl, rfl, stops_of_step hstep⟩
    | ok next =>
      rw [hstep] at h
      obtain ⟨before, last, after, reading', rfl, hrun, hstops⟩ := ih h
      refine ⟨line :: before, last, after, reading', rfl, by rw [run_cons hstep, hrun], ?_⟩
      rwa [List.length_cons, Nat.add_comm before.length, ← Nat.add_assoc]

/-- The fault at which lines cannot be read on. -/
inductive Breaks (rules : Rules) (ls : List (List Char)) : ParseError → Prop where
  | line (h : Opens rules before opening header ps said)
      (hcut : ls = before ++ opening :: header ++ line :: after) (hfence : isFence line = false)
      (hrefused : Refused line fault) :
      Breaks rules ls ⟨fault, (before ++ opening :: header).length + 1⟩
  | unclosed (h : Opens rules before opening header ps said)
      (hcut : ls = before ++ opening :: header) :
      Breaks rules ls ⟨.missingClosingFence, before.length + 1⟩
  | nameless (h : Opens rules before opening header ps said)
      (hcut : ls = before ++ opening :: header ++ closing :: after)
      (hclosing : isFence closing = true) (hrules : rules.requireName = true)
      (hname : said.name = none) : Breaks rules ls ⟨.missingName, before.length + 1⟩

/-- **Refused lines are read to a fault, with nothing wrong before.** -/
theorem breaks_of_parseLines {rules : Rules} {ls : List (List Char)} {error : ParseError}
    (h : parseLines rules ls = .error error) : Breaks rules ls error := by
  rw [parseLines] at h
  cases hrun : Reading.run rules {} 1 ls with
  | ok last =>
    rw [hrun] at h
    cases behind_of_run hrun with
    | preamble _ => cases h
    | header hopens hcut hn =>
      obtain rfl := Except.error.inj h
      subst hn
      exact .unclosed hopens hcut
    | body hopens hcut hn hclosing _ _ =>
      obtain ⟨hrules, hname, rfl⟩ := nameless_of_finish h
      subst hcut hn
      exact .nameless hopens rfl hclosing hrules hname
  | error error' =>
    rw [hrun] at h
    obtain rfl := Except.error.inj h
    obtain ⟨before, line, after, next, rfl, hbefore, hstops⟩ := Reading.run_eq_error hrun
    cases hstops with
    | refused hf hrefused =>
      cases behind_of_run hbefore with
      | header hopens hcut hn =>
        subst hcut
        rw [Nat.add_comm]
        exact .line hopens rfl hf hrefused
    | nameless hf hrules hname =>
      cases behind_of_run hbefore with
      | body hopens hcut hn hclosing _ _ =>
        subst hcut hn
        exact .nameless hopens (List.append_assoc ..) hclosing hrules hname

/-! ### The order of faults -/

/-- How many records of a text are over at one of its lines. -/
def recordsBefore (ls : List (List Char)) (number : Nat) : Nat :=
  (ls.take (number - 1)).countP isFence / 2

/-- When the fault is looked for in its record: first the lines of the header are read, then
the fence that closes it is, and then the name is asked for. -/
def Fault.turn : Fault → Nat
  | .missingClosingFence => 1
  | .missingName => 2
  | _ => 0

/-- The order of faults: by their records, by their turn in a record, and by their lines. -/
def Earlier (ls : List (List Char)) (a b : ParseError) : Prop :=
  recordsBefore ls a.line < recordsBefore ls b.line ∨
    recordsBefore ls a.line = recordsBefore ls b.line ∧
      (a.fault.turn < b.fault.turn ∨ a.fault.turn = b.fault.turn ∧ a.line < b.line)

theorem Earlier.asymm {ls : List (List Char)} {a b : ParseError} (h : Earlier ls a b) :
    ¬Earlier ls b a := by
  unfold Earlier at h ⊢
  omega

theorem recordsBefore_append (before rest : List (List Char)) :
    recordsBefore (before ++ rest) (before.length + 1) = before.countP isFence / 2 := by
  simp [recordsBefore]

theorem Refused.turn {line : List Char} {fault : Fault} (h : Refused line fault) :
    fault.turn = 0 := by
  cases h <;> rfl

/-! ### No fault before -/

theorem Opens.even {rules : Rules} {before header : List (List Char)} {opening : List Char}
    {ps : List Prompt} {said : Header} (h : Opens rules before opening header ps said) :
    before.countP isFence % 2 = 0 := by
  rw [countP_isFence_of_parseLines h.accepted]
  omega

theorem headerLine_of_readAll {header last : Header} {ls : List (List Char)}
    (h : header.readAll ls = .ok last) : ∀ line ∈ ls, HeaderLine line :=
  (exists_readAll header).mp ⟨last, h⟩

/-- A cut further to the front leaves a part of what stands before the other. -/
theorem eq_append_of_length_lt {before before' after after' : List α} {x y : α}
    (h : before ++ x :: after = before' ++ y :: after') (hlt : before'.length < before.length) :
    ∃ mid, before = before' ++ y :: mid ∧ after' = mid ++ x :: after := by
  rcases List.append_eq_append_iff.mp h with ⟨more, rfl, -⟩ | ⟨more, rfl, hmore⟩
  · rw [List.length_append] at hlt
    omega
  · cases more with
    | nil => simp at hlt
    | cons z mid =>
      obtain ⟨rfl, rfl⟩ := List.cons.inj hmore
      exact ⟨mid, rfl, rfl⟩

/-- A fault in front of an opening fence is one of the lines before it. -/
theorem FaultOf.of_append {rules : Rules} {before rest : List (List Char)} {opening : List Char}
    {error : ParseError} (h : FaultOf rules (before ++ opening :: rest) error)
    (hopening : isFence opening = true) (hline : error.line ≤ before.length) :
    FaultOf rules before error := by
  have hno {header : List (List Char)} (hheader : ∀ line ∈ header, isFence line = false) :
      opening ∉ header := fun hm => by
    rw [hheader opening hm] at hopening
    cases hopening
  cases h with
  | line hcut hinside hfence hrefused =>
    obtain ⟨mid, rfl, -⟩ := eq_append_of_length_lt hcut hline
    exact .line rfl hinside hfence hrefused
  | unclosed hcut houtside hfence hheader =>
    obtain ⟨mid, -, rfl⟩ := eq_append_of_length_lt hcut hline
    exact absurd (by simp) (hno hheader)
  | nameless hrules hcut houtside hfence hheader hafter hname =>
    obtain ⟨mid, rfl, hrest⟩ := eq_append_of_length_lt hcut hline
    obtain ⟨more, rfl, rfl⟩ := eq_append_of_not_mem hrest (hno hheader)
    refine .nameless hrules rfl houtside hfence hheader (fun line hm => hafter line ?_) hname
    exact mem_head?_of_beginning (List.prefix_append more _) hm

/-- A fault is found at a line of a header, or at a fence that opens one. -/
theorem FaultOf.cut {rules : Rules} {ls : List (List Char)} {error : ParseError}
    (h : FaultOf rules ls error) :
    ∃ before line after, ls = before ++ line :: after ∧ error.line = before.length + 1 ∧
      (isFence line = false ∧ before.countP isFence % 2 = 1 ∧ Refused line error.fault ∨
        isFence line = true ∧ before.countP isFence % 2 = 0 ∧
          (error.fault = .missingClosingFence ∧ (∀ l ∈ after, isFence l = false) ∨
            error.fault = .missingName)) := by
  cases h with
  | line hcut hinside hfence hrefused =>
    exact ⟨_, _, _, hcut, rfl, .inl ⟨hfence, hinside, hrefused⟩⟩
  | unclosed hcut houtside hopening hheader =>
    exact ⟨_, _, _, hcut, rfl, .inr ⟨hopening, houtside, .inl ⟨rfl, hheader⟩⟩⟩
  | nameless hrules hcut houtside hopening hheader hafter hname =>
    exact ⟨_, _, _, hcut, rfl, .inr ⟨hopening, houtside, .inr rfl⟩⟩

section
variable {rules : Rules} {before header tail : List (List Char)} {opening : List Char}
  {ps : List Prompt} {said : Header}

theorem Opens.countP (h : Opens rules before opening header ps said) :
    (before ++ opening :: header).countP isFence = before.countP isFence + 1 :=
  countP_opened h.opening h.fences

theorem recordsBefore_opening (before : List (List Char)) (opening : List Char)
    (header tail : List (List Char)) :
    recordsBefore (before ++ opening :: header ++ tail) (before.length + 1) =
      before.countP isFence / 2 := by
  rw [List.append_assoc, recordsBefore_append]

theorem Opens.recordsBefore_behind (h : Opens rules before opening header ps said)
    (more rest : List (List Char)) :
    recordsBefore (before ++ opening :: header ++ (more ++ rest))
        ((before ++ opening :: header).length + more.length + 1) =
      (before.countP isFence + 1 + more.countP isFence) / 2 := by
  rw [← List.append_assoc, ← List.length_append, recordsBefore_append, List.countP_append, h.countP]

/-- The line behind a header belongs to the same record as its fence. -/
theorem Opens.recordsBefore_end (h : Opens rules before opening header ps said)
    (rest : List (List Char)) :
    recordsBefore (before ++ opening :: header ++ rest) ((before ++ opening :: header).length + 1) =
      before.countP isFence / 2 := by
  have heven := h.even
  rw [recordsBefore_append, h.countP]
  omega

/-- **Behind accepted lines and a header that could be read, faults are found at the fence of
this header, or behind it.** -/
theorem Opens.place_of_fault (h : Opens rules before opening header ps said) {error : ParseError}
    (hfault : FaultOf rules (before ++ opening :: header ++ tail) error) :
    error.line = before.length + 1 ∧
        (error.fault = .missingClosingFence ∧ (∀ line ∈ tail, isFence line = false) ∨
          error.fault = .missingName) ∨
      ∃ more line after, tail = more ++ line :: after ∧
        error.line = (before ++ opening :: header).length + more.length + 1 ∧
        (isFence line = false ∧ Refused line error.fault ∨
          isFence line = true ∧ more.countP isFence % 2 = 1) := by
  have hcount := h.countP
  have heven := h.even
  rw [List.append_assoc, List.cons_append] at hfault
  have hlt : before.length < error.line := by
    by_contra hle
    exact not_faultOf_of_parseLines h.accepted error (hfault.of_append h.opening (by omega))
  obtain ⟨before', line, after, hcut, hline, hcase⟩ := hfault.cut
  have hno : line ∉ header := fun hm => by
    rcases hcase with ⟨-, -, hrefused⟩ | ⟨hf, -⟩
    · exact hrefused.not_headerLine (headerLine_of_readAll h.said line hm)
    · rw [h.fences line hm] at hf
      cases hf
  rcases Nat.lt_or_eq_of_le (show before.length ≤ before'.length by omega) with hlength | hlength
  · obtain ⟨mid, rfl, hmid⟩ := eq_append_of_length_lt hcut.symm hlength
    obtain ⟨more, rfl, rfl⟩ := eq_append_of_not_mem hmid hno
    right
    rw [← List.cons_append, ← List.append_assoc, List.countP_append] at hcase
    rw [← List.cons_append, ← List.append_assoc, List.length_append] at hline
    refine ⟨more, line, after, rfl, hline, ?_⟩
    rcases hcase with ⟨hf, -, hrefused⟩ | ⟨hf, hparity, -⟩
    · exact .inl ⟨hf, hrefused⟩
    · exact .inr ⟨hf, by omega⟩
  · obtain ⟨rfl, hrest⟩ := List.append_inj hcut hlength
    obtain ⟨rfl, rfl⟩ := List.cons.inj hrest
    left
    refine ⟨hline, ?_⟩
    rcases hcase with ⟨hf, -⟩ | ⟨-, -, hfault⟩
    · rw [h.opening] at hf
      cases hf
    · exact hfault.imp_left fun h => ⟨h.1, fun l hm => h.2 l (List.mem_append_right _ hm)⟩

/-- **If a line follows the header, faults are found at the fence of the header, at this line, or
further down**: there a line is refused, or another header has been opened. -/
theorem Opens.place_of_fault_cons (h : Opens rules before opening header ps said)
    {line : List Char} {error : ParseError}
    (hfault : FaultOf rules (before ++ opening :: header ++ line :: tail) error) :
    error.line = before.length + 1 ∧
        (error.fault = .missingClosingFence ∧ isFence line = false ∨
          error.fault = .missingName) ∨
      error.line = (before ++ opening :: header).length + 1 ∧
        isFence line = false ∧ Refused line error.fault ∨
      ∃ more, error.line = (before ++ opening :: header).length + (line :: more).length + 1 ∧
        recordsBefore (before ++ opening :: header ++ line :: tail) error.line =
          (before.countP isFence + 1 + (line :: more).countP isFence) / 2 ∧
        (error.fault.turn = 0 ∨ (line :: more).countP isFence % 2 = 1) := by
  rcases h.place_of_fault hfault with ⟨hline, hmissing⟩ | ⟨more, next, rest, htail, hline, hcase⟩
  · exact .inl ⟨hline, hmissing.imp_left fun h => ⟨h.1, h.2 line List.mem_cons_self⟩⟩
  · right
    cases more with
    | nil =>
      obtain ⟨rfl, rfl⟩ := List.cons.inj htail
      rcases hcase with hrefused | ⟨-, hparity⟩
      · exact .inl ⟨hline, hrefused⟩
      · cases hparity
    | cons first more =>
      rw [List.cons_append] at htail
      obtain ⟨rfl, rfl⟩ := List.cons.inj htail
      have hrecords := h.recordsBefore_behind (line :: more) (next :: rest)
      rw [← hline, List.cons_append] at hrecords
      exact .inr ⟨more, hline, hrecords, hcase.imp (fun h => h.2.turn) And.right⟩

end

/-- **No fault comes before the one at which lines cannot be read on.** -/
theorem Breaks.first {rules : Rules} {ls : List (List Char)} {error : ParseError}
    (h : Breaks rules ls error) {other : ParseError} (hother : FaultOf rules ls other) :
    other = error ∨ Earlier ls error other := by
  obtain ⟨fault, number⟩ := other
  cases h with
  | @line before opening header ps said line after _ hopens hcut hfence hrefused =>
    subst hcut
    have hopening := recordsBefore_opening before opening header (line :: after)
    have hhere := hopens.recordsBefore_end (line :: after)
    rcases hopens.place_of_fault_cons hother with
      ⟨rfl, hfault⟩ | ⟨rfl, -, hrefused'⟩ | ⟨more, hnumber, hrecords, hlater⟩
    · refine .inr (.inr ⟨hhere.trans hopening.symm, .inl ?_⟩)
      rw [hrefused.turn]
      rcases hfault with ⟨rfl, -⟩ | rfl
      · exact Nat.zero_lt_one
      · exact Nat.zero_lt_two
    · obtain rfl : fault = _ := hrefused.unique hrefused'
      exact .inl rfl
    · -- Another line is further down, and another record further on.
      have heven := hopens.even
      rw [List.countP_cons_of_neg (by simp [hfence])] at hrecords hlater
      rw [List.length_cons] at hnumber
      right
      rw [Earlier, hhere, hrecords, hrefused.turn]
      dsimp only at hnumber hlater ⊢
      omega
  | unclosed hopens hcut =>
    subst hcut
    rw [← List.append_nil (_ ++ _)] at hother
    rcases hopens.place_of_fault hother with
      ⟨rfl, hfault⟩ | ⟨more, line, after, htail, -, -⟩
    · rcases hfault with ⟨rfl, -⟩ | rfl
      · exact .inl rfl
      · exact .inr (.inr ⟨rfl, .inl Nat.one_lt_two⟩)
    · simp at htail
  | @nameless before opening header ps said closing after hopens hcut hclosing hrules hname =>
    subst hcut
    have hfence : isFence closing ≠ false := by simp [hclosing]
    rcases hopens.place_of_fault_cons hother with
      ⟨rfl, ⟨-, hf⟩ | rfl⟩ | ⟨-, hf, -⟩ | ⟨more, hnumber, hrecords, hlater⟩
    · exact absurd hf hfence
    · exact .inl rfl
    · exact absurd hf hfence
    · have hopening := recordsBefore_opening before opening header (closing :: after)
      rw [List.countP_cons_of_pos hclosing] at hrecords
      right
      left
      rw [hopening, hrecords]
      omega

theorem Breaks.faultOf {rules : Rules} {ls : List (List Char)} {error : ParseError}
    (h : Breaks rules ls error) : FaultOf rules ls error := by
  cases h with
  | line hopens hcut hfence hrefused =>
    refine .line hcut ?_ hfence hrefused
    have heven := hopens.even
    rw [hopens.countP]
    omega
  | unclosed hopens hcut => exact .unclosed hcut hopens.even hopens.opening hopens.fences
  | @nameless before opening header ps said closing after hopens hcut hclosing hrules hname =>
    have hcut' : ls = before ++ opening :: (header ++ closing :: after) := by
      rw [hcut, List.append_assoc, List.cons_append]
    have hhead : ∀ line ∈ (closing :: after).head?, isFence line = true := fun line hm =>
      Option.some.inj hm ▸ hclosing
    refine .nameless hrules hcut' hopens.even hopens.opening hopens.fences hhead ?_
    intro line hm value hentry
    exact (holds_of_readAll hopens.said).name_ne_none.mpr ⟨line, hm, value, hentry⟩ hname

/-! ### The fault that is reported -/

/-- **Lines are refused for the first of their faults.** -/
theorem parseLines_eq_error_iff {rules : Rules} {ls : List (List Char)} {error : ParseError} :
    parseLines rules ls = .error error ↔
      FaultOf rules ls error ∧
        ∀ other, FaultOf rules ls other → other = error ∨ Earlier ls error other := by
  constructor
  · intro h
    have hbreaks := breaks_of_parseLines h
    exact ⟨hbreaks.faultOf, fun other hother => hbreaks.first hother⟩
  · intro h
    obtain ⟨hfault, hfirst⟩ := h
    cases hparse : parseLines rules ls with
    | ok prompts => exact absurd hfault (not_faultOf_of_parseLines hparse error)
    | error error' =>
      have hbreaks := breaks_of_parseLines hparse
      rcases hfirst error' hbreaks.faultOf with rfl | hbefore
      · rfl
      · rcases hbreaks.first hfault with rfl | hbefore'
        · rfl
        · exact absurd hbefore' hbefore.asymm

/-- **A text is refused for the first of its faults**: of the first record that has one, the
first header line at fault, or else the missing closing fence, or else the missing name. The
fault is found at its own line, between the first line of the text and the last; a header line
at fault is visible, no comment and no fence, and stands behind an odd number of fences, and
the fence at which the other two are found opens a header. A text with a fault gives no
prompts at all. -/
theorem parse_refuses_first (rules : Rules) (text : String) :
    (∀ error, parse rules text = .error error ↔
      FaultOf rules (lines text.toList) error ∧
        ∀ other, FaultOf rules (lines text.toList) other →
          other = error ∨ Earlier (lines text.toList) error other) ∧
    (∀ error, FaultOf rules (lines text.toList) error →
      (1 ≤ error.line ∧ error.line ≤ (lines text.toList).length) ∧
      (∀ prompts, parse rules text ≠ .ok prompts) ∧
      ∃ before line after, lines text.toList = before ++ line :: after ∧
        error.line = before.length + 1 ∧
        (isFence line = false ∧ before.countP isFence % 2 = 1 ∧ trim line ≠ [] ∧ ¬Remark line ∧
            Refused line error.fault ∨
          isFence line = true ∧ before.countP isFence % 2 = 0 ∧
            (error.fault = .missingClosingFence ∨ error.fault = .missingName))) := by
  refine ⟨fun error => parseLines_eq_error_iff, fun error hfault => ?_⟩
  refine ⟨hfault.line_mem, fun prompts hparse => not_faultOf_of_parseLines hparse error hfault, ?_⟩
  obtain ⟨before, line, after, hcut, hline, hcase⟩ := hfault.cut
  refine ⟨before, line, after, hcut, hline, ?_⟩
  rcases hcase with ⟨hf, hinside, hrefused⟩ | ⟨hf, houtside, hmissing⟩
  · obtain ⟨hvisible, hplain⟩ := hrefused.visible
    exact .inl ⟨hf, hinside, hvisible, hplain, hrefused⟩
  · exact .inr ⟨hf, houtside, hmissing.imp_left And.left⟩

/-- The error of a `paste` line shows more than the value. -/
theorem paste_refusal_shows_modes :
    ∃ error, parse {} "---\nname: A\npaste: inline\n---\n" = .error error ∧
      error.fault.title = "invalid paste value" ∧ error.line = 3 ∧
      error.fault.detail = "'inline' (expected one of: after, before, replace)" ∧
      error.fault.detail ≠ "inline" := by
  refine ⟨⟨.invalidPaste "'inline' (expected one of: after, before, replace)", 3⟩, ?_⟩
  decide +kernel

end Promptbook.Template
