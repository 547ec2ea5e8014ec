import Promptbook.Proofs.Template.LineNumbers

/-! Where a reader stands.

A reader that has read lines without a fault is in front of all records, in a header, or in a
body, and its state says what the lines say that it has read (`behind_of_run`): what stands
before the record is accepted, and gives the prompts that are finished; the header was read
to the last of its lines; and the body is what the lines under it leave. It is in a header if
it has passed an odd number of fences (`header_iff_odd`). -/
namespace Promptbook.Template
open Text

/-! ### Runs, cut in two -/

theorem Reading.run_append_eq_ok {rules : Rules} {reading last : Reading} {number : Nat}
    {before rest : List (List Char)} (h : reading.run rules number (before ++ rest) = .ok last) :
    ∃ next, reading.run rules number before = .ok next ∧
      next.run rules (number + before.length) rest = .ok last := by
  rw [run_append] at h
  cases hbefore : reading.run rules number before with
  | error error =>
    rw [hbefore] at h
    cases h
  | ok next =>
    rw [hbefore] at h
    exact ⟨next, rfl, h⟩

theorem Reading.run_cons_eq_ok {rules : Rules} {reading last : Reading} {number : Nat}
    {line : List Char} {rest : List (List Char)}
    (h : reading.run rules number (line :: rest) = .ok last) :
    ∃ next, reading.step rules number line = .ok next ∧
      next.run rules (number + 1) rest = .ok last := by
  rw [run] at h
  cases hstep : reading.step rules number line with
  | error error =>
    rw [hstep] at h
    cases h
  | ok next =>
    rw [hstep] at h
    exact ⟨next, rfl, h⟩

/-- A reader is in a header after an odd number of fences, and never after an even number. -/
theorem header_iff_odd {rules : Rules} {ls : List (List Char)} {reading : Reading}
    (h : Reading.run rules {} 1 ls = .ok reading) :
    (∃ n said, reading.place = .header n said) ↔ ls.countP isFence % 2 = 1 := by
  have hseen : reading.seen = ls.countP isFence := by
    simpa [Reading.seen] using Reading.run_seen h
  obtain ⟨place, ps⟩ := reading
  rw [← hseen]
  cases place <;> simp [Reading.seen]

/-- An opening fence starts a header, if it can stand where it does. -/
theorem header_of_step {rules : Rules} {ls : List (List Char)} {reading next : Reading}
    (hrun : Reading.run rules {} 1 ls = .ok reading) (houtside : ls.countP isFence % 2 = 0)
    {number : Nat} {line : List Char} (hfence : isFence line = true)
    (h : reading.step rules number line = .ok next) :
    ∃ ps, next = ⟨.header number {}, ps⟩ := by
  cases moves_of_step h with
  | opened _ | finished _ _ => exact ⟨_, rfl⟩
  | closed _ =>
    have := (header_iff_odd hrun).mp ⟨_, _, rfl⟩
    omega
  | ignored hf | said hf _ | remarked hf _ | kept hf _ =>
    rw [hfence] at hf
    cases hf

theorem readAll_of_run {rules : Rules} {ls : List (List Char)}
    (h : ∀ line ∈ ls, isFence line = false) {n number : Nat} {said : Header} {ps : List Prompt}
    {reading : Reading} (hrun : Reading.run rules ⟨.header n said, ps⟩ number ls = .ok reading) :
    ∃ next, said.readAll ls = .ok next ∧ reading = ⟨.header n next, ps⟩ := by
  have hoption : (Reading.run rules ⟨.header n said, ps⟩ number ls).toOption =
      (said.readAll ls).toOption.map fun next => ⟨.header n next, ps⟩ := toOption_run_header h
  rw [hrun] at hoption
  cases hall : said.readAll ls with
  | error fault =>
    rw [hall] at hoption
    cases hoption
  | ok next =>
    rw [hall] at hoption
    exact ⟨next, rfl, Option.some.inj hoption⟩

/-! ### What has been read -/

/-- A record that is opened behind accepted lines, and what its header says so far. -/
structure Opens (rules : Rules) (before : List (List Char)) (opening : List Char)
    (header : List (List Char)) (ps : List Prompt) (said : Header) : Prop where
  accepted : parseLines rules before = .ok ps.reverse
  opening : isFence opening = true
  fences : ∀ line ∈ header, isFence line = false
  said : Header.readAll {} header = .ok said

/-- Where a reader stands that has read these lines. -/
inductive Reading.Behind (rules : Rules) (ls : List (List Char)) : Reading → Prop where
  | preamble (h : ∀ line ∈ ls, isFence line = false) : Behind rules ls ⟨.preamble, []⟩
  | header (h : Opens rules before opening header ps said) (hcut : ls = before ++ opening :: header)
      (hn : n = before.length + 1) : Behind rules ls ⟨.header n said, ps⟩
  | body (h : Opens rules before opening header ps said)
      (hcut : ls = before ++ opening :: header ++ closing :: body) (hn : n = before.length + 1)
      (hclosing : isFence closing = true) (hbody : ∀ line ∈ body, isFence line = false)
      (hkept : kept = (shown body).reverse) : Behind rules ls ⟨.body n said kept, ps⟩

theorem Header.readAll_concat {header next last : Header} {ls : List (List Char)} {line : List Char}
    (h : header.readAll ls = .ok next) (hread : next.read (trim line) = .ok last) :
    header.readAll (ls ++ [line]) = .ok last := by
  induction ls generalizing header with
  | nil =>
    obtain rfl := Except.ok.inj h
    rw [List.nil_append, readAll, hread]
    rfl
  | cons first rest ih =>
    rw [readAll] at h
    rw [List.cons_append, readAll]
    cases hfirst : header.read (trim first) with
    | error fault =>
      rw [hfirst] at h
      cases h
    | ok header' =>
      rw [hfirst] at h
      exact ih h

theorem forall_mem_concat {ls : List (List Char)} (h : ∀ line ∈ ls, isFence line = false)
    {last : List Char} (hlast : isFence last = false) :
    ∀ line ∈ ls ++ [last], isFence line = false := by
  intro line hm
  rcases List.mem_append.mp hm with hm | hm
  · exact h line hm
  · obtain rfl := List.mem_singleton.mp hm
    exact hlast

theorem parseLines_of_run {rules : Rules} {ls : List (List Char)} {reading : Reading}
    (h : Reading.run rules {} 1 ls = .ok reading) : parseLines rules ls = reading.finish rules := by
  rw [parseLines, h]

theorem shown_concat (body : List (List Char)) (line : List Char) :
    shown (body ++ [line]) = shown body ++ if Remark line then [] else [line] := by
  rw [shown, List.filter_append]
  by_cases h : Remark line <;> simp [shown, h]

/-- One more line, and the reader stands where it should. -/
theorem Reading.Behind.step {rules : Rules} {ls : List (List Char)} {reading next : Reading}
    (hb : reading.Behind rules ls) (hrun : Reading.run rules {} 1 ls = .ok reading)
    {line : List Char} (hmove : Moves rules (1 + ls.length) line reading next) :
    next.Behind rules (ls ++ [line]) := by
  have hparse := parseLines_of_run hrun
  cases hmove with
  | ignored hf =>
    cases hb with
    | preamble h => exact .preamble (forall_mem_concat h hf)
  | opened hf =>
    cases hb with
    | preamble h => exact .header ⟨hparse, hf, by simp, rfl⟩ rfl (Nat.add_comm ..)
  | said hf hread =>
    cases hb with
    | header h hcut hn =>
      refine .header ⟨h.accepted, h.opening, forall_mem_concat h.fences hf,
        Header.readAll_concat h.said hread⟩ ?_ hn
      rw [hcut, List.append_assoc, List.cons_append]
  | closed hf =>
    cases hb with
    | header h hcut hn => exact .body h (by rw [hcut]) hn hf (by simp) rfl
  | remarked hf hc =>
    cases hb with
    | body h hcut hn hclosing hbody hkept =>
      refine .body h ?_ hn hclosing (forall_mem_concat hbody hf) ?_
      · rw [hcut, List.append_assoc, List.cons_append]
      · rw [hkept, shown_concat, if_pos (isComment_trim_iff.mp hc), List.append_nil]
  | kept hf hc =>
    cases hb with
    | body h hcut hn hclosing hbody hkept =>
      refine .body h ?_ hn hclosing (forall_mem_concat hbody hf) ?_
      · rw [hcut, List.append_assoc, List.cons_append]
      · have hplain : ¬Remark _ := fun h => by
          rw [isComment_trim_iff.mpr h] at hc
          cases hc
        rw [hkept, shown_concat, if_neg hplain, List.reverse_append]
        rfl
  | finished hf hprompt =>
    refine .header ⟨?_, hf, by simp, rfl⟩ rfl (Nat.add_comm ..)
    rw [hparse, Reading.finish]
    simp only [hprompt, atLine]

/-- **A reader that has read lines stands where these lines lead.** -/
theorem behind_of_run {rules : Rules} {ls : List (List Char)} {reading : Reading}
    (h : Reading.run rules {} 1 ls = .ok reading) : reading.Behind rules ls := by
  induction ls using List.reverseRecOn generalizing reading with
  | nil =>
    obtain rfl := Except.ok.inj h
    exact .preamble (by simp)
  | append_singleton ls line ih =>
    obtain ⟨last, hls, hrest⟩ := Reading.run_append_eq_ok h
    obtain ⟨next, hstep, hnil⟩ := Reading.run_cons_eq_ok hrest
    obtain rfl := Except.ok.inj hnil
    exact (ih hls).step hls (moves_of_step hstep)

end Promptbook.Template
