import Promptbook.Proofs.Template.Accepted

/-! Texts, segment by segment.

The fences cut the lines of a text into segments: what stands before the first fence, and
what stands behind each, so that the number of a segment tells its fence (`exists_opening`).
A reader goes from line to line, but what it gives depends on the segments alone
(`toOption_parseLines`). The first is skipped. From then on every two make a record, of a
header and the body under it (`record?`). Reading fails if one of them does not, or if the
last header has no body (`records?`). -/
namespace Promptbook.Template
open Text

/-! ### Segments -/

/-- The lines before the first fence, and the lines behind each. -/
def segments (ls : List (List Char)) : List (List (List Char)) := ls.splitOnP isFence

theorem segments_ne_nil (ls : List (List Char)) : segments ls ≠ [] := List.splitOnP_ne_nil _ ls

theorem segments_of_forall {ls : List (List Char)} (h : ∀ line ∈ ls, isFence line = false) :
    segments ls = [ls] := List.splitOnP_eq_singleton h

theorem segments_append_cons {before : List (List Char)} (h : ∀ line ∈ before, isFence line = false)
    {line : List Char} (hf : isFence line = true) (after : List (List Char)) :
    segments (before ++ line :: after) = before :: segments after :=
  List.splitOnP_append_cons_of_forall_mem h line hf after

/-- A text has one segment, or a first one in front of a fence and the segments behind it. -/
theorem segments_induction {motive : List (List Char) → Prop}
    (last : ∀ ls, (∀ line ∈ ls, isFence line = false) → motive ls)
    (more : ∀ before line after, (∀ line ∈ before, isFence line = false) → isFence line = true →
      motive after → motive (before ++ line :: after))
    (ls : List (List Char)) : motive ls := by
  induction hlength : ls.length using Nat.strong_induction_on generalizing ls with
  | _ n ih =>
    cases hfind : ls.find? isFence with
    | none => exact last ls fun line hm => by simpa using List.find?_eq_none.mp hfind line hm
    | some line =>
      obtain ⟨hf, before, after, rfl, hbefore⟩ := List.find?_eq_some_iff_append.mp hfind
      refine more before line after (fun l hl => by simpa using hbefore l hl) hf
        (ih after.length ?_ after rfl)
      simp only [List.length_append, List.length_cons] at hlength
      omega

theorem mem_of_mem_segments {ls segment : List (List Char)} (h : segment ∈ segments ls)
    {line : List Char} (hline : line ∈ segment) : line ∈ ls := by
  induction ls using segments_induction with
  | last ls hls =>
    rw [segments_of_forall hls, List.mem_singleton] at h
    exact h ▸ hline
  | more before fence after hbefore hf ih =>
    rw [segments_append_cons hbefore hf] at h
    rcases List.mem_cons.mp h with rfl | h
    · exact List.mem_append_left _ hline
    · exact List.mem_append_right _ (List.mem_cons_of_mem _ (ih h))

/-! ### Segments by their number -/

theorem countP_isFence_eq_zero {ls : List (List Char)} (h : ∀ line ∈ ls, isFence line = false) :
    ls.countP isFence = 0 :=
  List.countP_eq_zero.mpr (by simpa using h)

/-- A text has one segment more than it has fences. -/
theorem length_segments (ls : List (List Char)) :
    (segments ls).length = ls.countP isFence + 1 := by
  induction ls using segments_induction with
  | last ls h =>
    rw [segments_of_forall h, countP_isFence_eq_zero h, List.length_singleton]
  | more before line after h hf ih =>
    rw [segments_append_cons h hf, List.length_cons, ih, List.countP_append,
      List.countP_cons_of_pos hf, countP_isFence_eq_zero h, Nat.zero_add]

/-- Behind a fence the segments are those of what follows. -/
theorem getElem?_segments (before : List (List Char)) {line : List Char} (hf : isFence line = true)
    (after : List (List Char)) (i : Nat) :
    (segments (before ++ line :: after))[before.countP isFence + 1 + i]? =
      (segments after)[i]? := by
  have hsplit : segments (before ++ line :: after) = segments before ++ segments after :=
    List.splitOnP_append_cons before after hf
  rw [hsplit, ← length_segments, List.getElem?_append_right (Nat.le_add_right ..),
    Nat.add_sub_cancel_left]

/-- Lines begin with their first segment, which ends at a fence or with them. -/
theorem eq_append_of_segments {ls segment : List (List Char)} (h : (segments ls)[0]? = some segment) :
    ∃ after, ls = segment ++ after ∧ (∀ line ∈ segment, isFence line = false) ∧
      ∀ line ∈ after.head?, isFence line = true := by
  cases ls using segments_induction with
  | last ls hls =>
    rw [segments_of_forall hls] at h
    obtain rfl := Option.some.inj h
    exact ⟨[], (List.append_nil _).symm, hls, by simp⟩
  | more before line after hbefore hf _ =>
    rw [segments_append_cons hbefore hf] at h
    obtain rfl := Option.some.inj h
    exact ⟨line :: after, rfl, hbefore, by simpa using hf⟩

/-- Every segment but the first stands behind the fence that its number counts to. -/
theorem exists_opening {ls segment : List (List Char)} {m : Nat}
    (h : (segments ls)[m + 1]? = some segment) :
    ∃ before opening after, ls = before ++ opening :: (segment ++ after) ∧
      isFence opening = true ∧ before.countP isFence = m ∧
      (∀ line ∈ segment, isFence line = false) ∧ ∀ line ∈ after.head?, isFence line = true := by
  induction ls using segments_induction generalizing m with
  | last ls hls => simp [segments_of_forall hls] at h
  | more before line after hbefore hf ih =>
    rw [segments_append_cons hbefore hf, List.getElem?_cons_succ] at h
    cases m with
    | zero =>
      obtain ⟨after, rfl, hsegment, hafter⟩ := eq_append_of_segments h
      exact ⟨before, line, after, rfl, hf, countP_isFence_eq_zero hbefore, hsegment, hafter⟩
    | succ m =>
      obtain ⟨before', opening, after, rfl, hopening, rfl, hsegment, hafter⟩ := ih h
      refine ⟨before ++ line :: before', opening, after, ?_, hopening, ?_, hsegment, hafter⟩
      · rw [List.append_assoc, List.cons_append]
      · rw [List.countP_append, List.countP_cons_of_pos hf, countP_isFence_eq_zero hbefore,
          Nat.zero_add]

/-! ### Records of segments -/

/-- The header after all these lines. -/
def Header.readAll (header : Header) : List (List Char) → Except Fault Header
  | [] => .ok header
  | line :: rest =>
    match header.read (trim line) with
    | .ok next => next.readAll rest
    | .error fault => .error fault

/-- A line that is a comment from its first visible character to its last. -/
def Remark (line : List Char) : Prop := ∃ text, trim line = commentStart ++ text ++ commentEnd

theorem isComment_trim_iff {line : List Char} : isComment (trim line) = true ↔ Remark line := by
  rw [isComment_iff]
  constructor
  · intro h
    obtain ⟨⟨rest, hrest⟩, hend, hlength⟩ := h
    have hsuffix : commentEnd <:+ rest := by
      refine List.suffix_of_suffix_length_le hend ⟨commentStart, hrest⟩ ?_
      rw [← hrest, List.length_append] at hlength
      omega
    obtain ⟨text, rfl⟩ := hsuffix
    exact ⟨text, by rw [← hrest, List.append_assoc]⟩
  · intro h
    obtain ⟨text, htext⟩ := h
    rw [htext]
    refine ⟨⟨text ++ commentEnd, by simp⟩, ⟨commentStart ++ text, rfl⟩, ?_⟩
    simp only [List.length_append]
    omega

instance : DecidablePred Remark := fun _ => decidable_of_iff _ isComment_trim_iff

/-- The lines of a body that are no comments. -/
def shown (body : List (List Char)) : List (List Char) := body.filter fun line => ¬Remark line

/-- The prompt of a header and the body under it. -/
def record? (rules : Rules) (header body : List (List Char)) : Option Prompt :=
  (Header.readAll {} header).toOption.bind fun said =>
    (said.toPrompt rules (shown body).reverse).toOption

/-- The prompts of headers and bodies in turns. -/
def records? (rules : Rules) : List (List (List Char)) → Option (List Prompt)
  | [] => some []
  | [_] => none
  | header :: body :: rest =>
    (record? rules header body).bind fun prompt => (records? rules rest).map (prompt :: ·)

/-! ### Reading a segment -/

theorem toOption_eq_some_iff {result : Except ε α} {value : α} :
    result.toOption = some value ↔ result = .ok value := by
  cases result <;> simp [Except.toOption]

/-- The prompts of a text that ends with these lines. -/
def Reading.ending (rules : Rules) (reading : Reading) (number : Nat) (ls : List (List Char)) :
    Option (List Prompt) :=
  (reading.run rules number ls).toOption.bind fun last => (last.finish rules).toOption

theorem Reading.ending_append (rules : Rules) (reading : Reading) (number : Nat)
    (before rest : List (List Char)) :
    reading.ending rules number (before ++ rest) =
      (reading.run rules number before).toOption.bind fun next =>
        next.ending rules (number + before.length) rest := by
  rw [ending, run_append]
  cases reading.run rules number before <;> rfl

theorem Reading.toOption_run_cons (rules : Rules) (reading : Reading) (number : Nat)
    (line : List Char) (rest : List (List Char)) :
    (reading.run rules number (line :: rest)).toOption =
      (reading.step rules number line).toOption.bind fun next =>
        (next.run rules (number + 1) rest).toOption := by
  rw [run]
  cases reading.step rules number line <;> rfl

theorem Reading.ending_cons (rules : Rules) (reading : Reading) (number : Nat) (line : List Char)
    (rest : List (List Char)) :
    reading.ending rules number (line :: rest) =
      (reading.step rules number line).toOption.bind fun next =>
        next.ending rules (number + 1) rest := by
  rw [ending, toOption_run_cons, Option.bind_assoc]
  rfl

section
variable {rules : Rules} {n number : Nat} {said : Header} {ps : List Prompt} {line : List Char}

theorem step_opening (h : isFence line = true) :
    Reading.step rules ⟨.preamble, ps⟩ number line = .ok ⟨.header number {}, ps⟩ := by
  simp only [Reading.step, h, if_true]

theorem toOption_step_header (h : isFence line = false) :
    (Reading.step rules ⟨.header n said, ps⟩ number line).toOption =
      (said.read (trim line)).toOption.map fun next => ⟨.header n next, ps⟩ := by
  simp only [Reading.step, h, Bool.false_eq_true, if_false]
  cases said.read (trim line) <;> rfl

theorem step_closing (h : isFence line = true) :
    Reading.step rules ⟨.header n said, ps⟩ number line = .ok ⟨.body n said [], ps⟩ := by
  simp only [Reading.step, h, if_true]

theorem step_body (h : isFence line = false) (body : List (List Char)) :
    Reading.step rules ⟨.body n said body, ps⟩ number line =
      .ok ⟨.body n said ((shown [line]).reverse ++ body), ps⟩ := by
  simp only [Reading.step, h, Bool.false_eq_true, if_false, isComment_trim_iff]
  by_cases hc : Remark line <;> simp [shown, hc]

theorem toOption_step_ending (h : isFence line = true) (body : List (List Char)) :
    (Reading.step rules ⟨.body n said body, ps⟩ number line).toOption =
      (said.toPrompt rules body).toOption.map fun prompt => ⟨.header number {}, prompt :: ps⟩ := by
  simp only [Reading.step, h, if_true]
  cases said.toPrompt rules body <;> rfl

theorem toOption_finish_body (body : List (List Char)) :
    (Reading.finish rules ⟨.body n said body, ps⟩).toOption =
      (said.toPrompt rules body).toOption.map fun prompt => (prompt :: ps).reverse := by
  simp only [Reading.finish]
  cases said.toPrompt rules body <;> rfl

theorem run_preamble {ls : List (List Char)} (h : ∀ line ∈ ls, isFence line = false) :
    Reading.run rules ⟨.preamble, ps⟩ number ls = .ok ⟨.preamble, ps⟩ := by
  induction ls generalizing number with
  | nil => rfl
  | cons line rest ih =>
    have hstep : Reading.step rules ⟨.preamble, ps⟩ number line = .ok ⟨.preamble, ps⟩ := by
      simp [Reading.step, h line List.mem_cons_self]
    rw [Reading.run_cons hstep, ih fun l hl => h l (List.mem_cons_of_mem _ hl)]

theorem toOption_run_header {ls : List (List Char)} (h : ∀ line ∈ ls, isFence line = false) :
    (Reading.run rules ⟨.header n said, ps⟩ number ls).toOption =
      (said.readAll ls).toOption.map fun next => ⟨.header n next, ps⟩ := by
  induction ls generalizing said number with
  | nil => rfl
  | cons line rest ih =>
    rw [Reading.toOption_run_cons, toOption_step_header (h line List.mem_cons_self), Header.readAll]
    cases said.read (trim line) with
    | error fault => rfl
    | ok next => exact ih fun l hl => h l (List.mem_cons_of_mem _ hl)

theorem run_body {ls : List (List Char)} (h : ∀ line ∈ ls, isFence line = false)
    (body : List (List Char)) :
    Reading.run rules ⟨.body n said body, ps⟩ number ls =
      .ok ⟨.body n said ((shown ls).reverse ++ body), ps⟩ := by
  induction ls generalizing body number with
  | nil => rfl
  | cons line rest ih =>
    have hshown : shown (line :: rest) = shown [line] ++ shown rest := List.filter_append [line] rest
    rw [Reading.run_cons (step_body (h line List.mem_cons_self) body),
      ih fun l hl => h l (List.mem_cons_of_mem _ hl), hshown, List.reverse_append, List.append_assoc]

end

/-! ### Reading all segments -/

/-- The prompts of a body under this header, and of what follows. -/
def recordsUnder? (rules : Rules) (said : Header) : List (List (List Char)) → Option (List Prompt)
  | [] => none
  | body :: rest =>
    (said.toPrompt rules (shown body).reverse).toOption.bind fun prompt =>
      (records? rules rest).map (prompt :: ·)

theorem records?_cons (rules : Rules) (header : List (List Char)) (rest : List (List (List Char))) :
    records? rules (header :: rest) =
      (Header.readAll {} header).toOption.bind fun said => recordsUnder? rules said rest := by
  cases rest with
  | nil => cases (Header.readAll {} header).toOption <;> rfl
  | cons body rest =>
    rw [records?, record?, Option.bind_assoc]
    rfl

/-- What is read from behind a fence on, in a header or in a body, are the records of the
segments that are left. -/
theorem ending_segments (rules : Rules) (ls : List (List Char)) :
    (∀ n ps number, Reading.ending rules ⟨.header n {}, ps⟩ number ls =
      (records? rules (segments ls)).map (ps.reverse ++ ·)) ∧
    (∀ n said ps number, Reading.ending rules ⟨.body n said [], ps⟩ number ls =
      (recordsUnder? rules said (segments ls)).map (ps.reverse ++ ·)) := by
  -- Headers and bodies take turns, so one induction serves both: what follows a header is
  -- read from a body, and what follows a body from the next header.
  induction ls using segments_induction with
  | last ls h =>
    rw [segments_of_forall h]
    refine ⟨fun n ps number => ?_, fun n said ps number => ?_⟩
    · rw [Reading.ending, toOption_run_header h]
      cases (Header.readAll {} ls).toOption <;> rfl
    · rw [Reading.ending, run_body h, List.append_nil, Except.toOption, Option.bind_some,
        toOption_finish_body, recordsUnder?]
      cases (said.toPrompt rules (shown ls).reverse).toOption <;> simp [records?]
  | more before line after h hf ih =>
    obtain ⟨hheader, hbody⟩ := ih
    rw [segments_append_cons h hf]
    refine ⟨fun n ps number => ?_, fun n said ps number => ?_⟩
    · rw [Reading.ending_append, toOption_run_header h, records?_cons]
      cases (Header.readAll {} before).toOption with
      | none => rfl
      | some said =>
        rw [Option.map_some, Option.bind_some, Option.bind_some, Reading.ending_cons,
          step_closing hf]
        exact hbody ..
    · rw [Reading.ending_append, run_body h, List.append_nil, Except.toOption, Option.bind_some,
        Reading.ending_cons, toOption_step_ending hf, recordsUnder?]
      cases (said.toPrompt rules (shown before).reverse).toOption with
      | none => rfl
      | some prompt =>
        rw [Option.map_some, Option.bind_some, Option.bind_some, hheader, List.reverse_cons,
          Option.map_map]
        simp [Function.comp_def]

/-- **What a text gives depends on its segments behind the first fence alone.** -/
theorem toOption_parseLines (rules : Rules) (ls : List (List Char)) :
    (parseLines rules ls).toOption = records? rules (segments ls).tail := by
  have hending : (parseLines rules ls).toOption = Reading.ending rules {} 1 ls := by
    rw [parseLines, Reading.ending]
    cases Reading.run rules {} 1 ls <;> rfl
  rw [hending]
  cases ls using segments_induction with
  | last ls h =>
    rw [segments_of_forall h, Reading.ending, run_preamble h]
    rfl
  | more before line after h hf _ =>
    rw [segments_append_cons h hf, Reading.ending_append, run_preamble h, Except.toOption,
      Option.bind_some, Reading.ending_cons, step_opening hf, Except.toOption, Option.bind_some,
      (ending_segments rules after).1]
    simp

end Promptbook.Template
