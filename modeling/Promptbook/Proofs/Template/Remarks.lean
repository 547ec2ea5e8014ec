import Mathlib.Data.List.Infix
import Promptbook.Substitution.Search
import Promptbook.Proofs.Template.FirstFault

/-! What is taken for a comment.

A line is skipped if a comment mark opens it and another one closes it, whatever stands
between. Most such lines are one comment and nothing else (`SoleComment`). But a comment may
be closed before the line ends, and the line may go on with text of its own up to another
closing mark at its end (`ClosedEarly`): that text is lost with the line. In no other way is
visible text lost. Every other visible line of a body is in the body of the prompt, and every
other visible line of a header is stored or refused (`parse_keeps_visible`). -/
namespace Promptbook.Template
open Text Substitution

/-! ### Comments that fill a line -/

/-- A line that is one comment: the first closing mark behind the opening one ends it. -/
def SoleComment (line : List Char) : Prop :=
  ∃ text, trim line = commentStart ++ text ++ commentEnd ∧
    ∀ before after, text ++ commentEnd = before ++ commentEnd ++ after → after = []

/-- A line that is skipped although its first comment is closed before its end. -/
def ClosedEarly (line : List Char) : Prop :=
  ∃ text, trim line = commentStart ++ text ++ commentEnd ∧ commentEnd <:+: text

/-- A closing mark does not overlap another one, so only one within the text can come before
the one that follows it. -/
theorem closes_last_iff {text : List Char} :
    (∀ before after, text ++ commentEnd = before ++ commentEnd ++ after → after = []) ↔
      ¬commentEnd <:+: text := by
  constructor
  · intro h hin
    obtain ⟨before, after, rfl⟩ := hin
    have hnil := h before (after ++ commentEnd) (by simp only [List.append_assoc])
    simp [commentEnd] at hnil
  · intro hout before after h
    rcases List.append_eq_append_iff.mp h with ⟨more, hmore, hafter⟩ | ⟨more, hmore, -⟩
    · by_cases hnil : more = []
      · rw [hnil, List.append_nil] at hmore
        exact absurd ⟨before, [], by rw [hmore, List.append_nil]⟩ hout
      · -- The two marks would overlap, and both parts of the later one would end with its `>`.
        by_contra hne
        have hlast : (before ++ commentEnd).getLast? = some '>' := by
          rw [List.getLast?_append_of_ne_nil before (by decide)]
          rfl
        have hlast' : (more ++ after).getLast? = some '>' := by
          rw [← hafter]
          rfl
        rw [hmore, List.getLast?_append_of_ne_nil text hnil] at hlast
        rw [List.getLast?_append_of_ne_nil more hne] at hlast'
        have hcount : commentEnd.count '>' = more.count '>' + after.count '>' := by
          rw [hafter, List.count_append]
        have hone : commentEnd.count '>' = 1 := by decide
        have hmore := List.count_pos_iff.mpr (List.mem_of_getLast? hlast)
        have hafter := List.count_pos_iff.mpr (List.mem_of_getLast? hlast')
        omega
    · exact absurd ⟨before, more, hmore.symm⟩ hout

theorem SoleComment.not_closedEarly {line : List Char} (h : SoleComment line) :
    ¬ClosedEarly line := by
  intro hearly
  obtain ⟨text, htext, hfirst⟩ := h
  obtain ⟨text', htext', hin⟩ := hearly
  rw [htext] at htext'
  obtain rfl := List.append_cancel_left (List.append_cancel_right htext')
  exact closes_last_iff.mp hfirst hin

/-- **A line is skipped if it is one comment, or if a comment in it is closed early.** -/
theorem remark_iff {line : List Char} : Remark line ↔ SoleComment line ∨ ClosedEarly line := by
  constructor
  · intro h
    obtain ⟨text, htext⟩ := h
    by_cases hin : commentEnd <:+: text
    · exact .inr ⟨text, htext, hin⟩
    · exact .inl ⟨text, htext, closes_last_iff.mpr hin⟩
  · intro h
    rcases h with ⟨text, htext, -⟩ | ⟨text, htext, -⟩ <;> exact ⟨text, htext⟩

theorem sole_of_remark_iff {line : List Char} :
    (Remark line → SoleComment line) ↔ ¬ClosedEarly line := by
  rw [remark_iff]
  constructor
  · intro h hearly
    exact (h (.inr hearly)).not_closedEarly hearly
  · intro hno h
    exact h.resolve_right hno

/-- What stands between the two marks of a skipped line. -/
def between (line : List Char) : List Char :=
  ((trim line).drop commentStart.length).rdrop commentEnd.length

theorem closedEarly_iff {line : List Char} :
    ClosedEarly line ↔ Remark line ∧ commentEnd <:+: between line := by
  have hbetween (text : List Char) (h : trim line = commentStart ++ text ++ commentEnd) :
      between line = text := by
    rw [between, h, List.append_assoc, List.drop_left, List.rdrop_append_length]
  constructor
  · intro h
    obtain ⟨text, htext, hin⟩ := h
    exact ⟨⟨text, htext⟩, (hbetween text htext).symm ▸ hin⟩
  · intro h
    obtain ⟨⟨text, htext⟩, hin⟩ := h
    exact ⟨text, htext, hbetween text htext ▸ hin⟩

instance : DecidablePred ClosedEarly := fun _ => decidable_of_iff _ closedEarly_iff.symm

/-! ### Text outside of comments -/

/-- How far it is to the end of the first closing mark of a text. -/
def closing? : List Char → Option Nat
  | [] => none
  | c :: rest =>
    if commentEnd.isPrefixOf (c :: rest) then some commentEnd.length
    else (closing? rest).map (· + 1)

/-- A comment at the start of a text: an opening mark, and all up to the next closing one. -/
def comment? : Finder Unit := fun text =>
  if commentStart.isPrefixOf text then
    (closing? (text.drop commentStart.length)).map fun n => ((), commentStart.length + n)
  else none

/-- The text of a line without its comments. -/
def outside (line : List Char) : List Char := replace comment? (fun _ => []) line

/-- A line with something visible outside of its comments. -/
def Visible (line : List Char) : Prop := trim (outside line) ≠ []

instance : DecidablePred Visible := fun _ => inferInstanceAs (Decidable (_ ≠ _))

theorem closing?_append {text : List Char} (h : ¬commentEnd <:+: text) (rest : List Char) :
    closing? (text ++ commentEnd ++ rest) = some (text.length + commentEnd.length) := by
  induction text with
  | nil => rfl
  | cons c text ih =>
    have hnext : ¬commentEnd <:+: text := fun hin => h (hin.trans (List.suffix_cons c text).isInfix)
    have hno : ¬commentEnd <+: c :: (text ++ commentEnd ++ rest) := by
      intro hfirst
      -- A mark here would be closed before the one behind the text.
      have hshort : commentEnd <+: c :: text ++ commentEnd := by
        refine List.prefix_of_prefix_length_le hfirst ⟨rest, by simp⟩ ?_
        simp only [List.length_append, List.length_cons]
        omega
      obtain ⟨after, hafter⟩ := hshort
      have hnil := closes_last_iff.mpr h [] after hafter.symm
      have hlength := congrArg List.length hafter
      rw [hnil, List.append_nil] at hlength
      simp only [List.length_append, List.length_cons] at hlength
      omega
    rw [List.cons_append, List.cons_append, closing?, if_neg (by simpa using hno), ih hnext,
      List.length_cons]
    simp only [Option.map_some, Option.some.injEq]
    omega

theorem comment?_append {text : List Char} (h : ¬commentEnd <:+: text) (rest : List Char) :
    comment? (commentStart ++ text ++ commentEnd ++ rest) =
      some ((), (commentStart ++ text ++ commentEnd).length) := by
  have hopens : commentStart.isPrefixOf (commentStart ++ text ++ commentEnd ++ rest) = true := by
    rw [List.isPrefixOf_iff_prefix, List.append_assoc, List.append_assoc]
    exact List.prefix_append _ _
  have hdrop : (commentStart ++ text ++ commentEnd ++ rest).drop commentStart.length =
      text ++ commentEnd ++ rest := by
    simp only [List.append_assoc, List.drop_left]
  rw [comment?, if_pos hopens, hdrop, closing?_append h]
  simp only [Option.map_some, List.length_append, Nat.add_assoc]

theorem comment?_of_blank {c : Char} (h : isBlank c = true) (rest : List Char) :
    comment? (c :: rest) = none := by
  apply if_neg
  rw [List.isPrefixOf_iff_prefix]
  intro hopens
  obtain ⟨more, hmore⟩ := hopens
  obtain ⟨rfl, -⟩ := List.cons.inj hmore
  cases h

theorem outside_append_of_blank {before : List Char} (h : allBlank before = true)
    (rest : List Char) : outside (before ++ rest) = before ++ outside rest := by
  have hnone (first : List Char) (c : Char) (last : List Char) (hcut : before = first ++ c :: last) :
      comment? (c :: last ++ rest) = none :=
    comment?_of_blank (List.all_eq_true.mp h c (by simp [hcut])) _
  rw [outside, outside, replace, cut_append_of_none hnone, List.flatMap_append,
    flatMap_text_plain]
  rfl

theorem outside_of_blank {line : List Char} (h : allBlank line = true) : outside line = line := by
  have hline := outside_append_of_blank h []
  rwa [List.append_nil, show outside [] = [] from rfl, List.append_nil] at hline

theorem outside_comment_append {text : List Char} (h : ¬commentEnd <:+: text) (rest : List Char) :
    outside (commentStart ++ text ++ commentEnd ++ rest) = outside rest := by
  have hne : commentStart ++ text ++ commentEnd ≠ [] := by simp [commentEnd]
  rw [outside, replace, cut_append_of_found (comment?_append h rest) hne, List.flatMap_cons]
  rfl

/-- An opening mark that nothing closes opens no comment. -/
example : outside "a <!-- b --> c <!-- d".toList = "a  c <!-- d".toList := by decide +kernel

/-- Nothing of a line that is one comment is visible. -/
theorem SoleComment.not_visible {line : List Char} (h : SoleComment line) : ¬Visible line := by
  obtain ⟨text, htext, hfirst⟩ := h
  obtain ⟨before, after, hline, hbefore, hafter⟩ := exists_eq_append_trim line
  have houtside : outside line = before ++ after := by
    rw [hline, List.append_assoc, outside_append_of_blank hbefore, htext,
      outside_comment_append (closes_last_iff.mp hfirst), outside_of_blank hafter]
  have hblank : allBlank (before ++ after) = true := by
    simp only [allBlank] at hbefore hafter ⊢
    rw [List.all_append, hbefore, hafter, Bool.and_self]
  rw [Visible, houtside, not_not]
  exact trim_eq_nil_iff.mpr hblank

theorem Visible.trim_ne_nil {line : List Char} (h : Visible line) : trim line ≠ [] := by
  intro hnil
  have hblank := trim_eq_nil_iff.mp hnil
  rw [Visible, outside_of_blank hblank] at h
  exact h hnil

/-- **A visible line is skipped only if a comment in it is closed early.** -/
theorem Visible.remark_iff {line : List Char} (h : Visible line) :
    Remark line ↔ ClosedEarly line := by
  rw [Template.remark_iff]
  exact or_iff_right fun hsole => hsole.not_visible h

/-! ### Lines that are kept -/

/-- A header line whose value the prompt has, if no later line of the header gives its key
another. -/
def Stored (prompt : Prompt) (line : List Char) (later : List (List Char)) : Prop :=
  ∃ key value, Entry line key value ∧
    ((headerOf prompt).field key = some (keptAs key value) ∨
      ∃ l ∈ later, ∃ value', Entry l key value')

/-- What a header says is what its prompt has, but for an empty name. -/
theorem field_headerOf {said : Header} {rules : Rules} {body : List (List Char)} {prompt : Prompt}
    (h : said.toPrompt rules body = .ok prompt) {key : List Char} {value : String}
    (hfield : said.field key = some value) (hne : key = "name".toList → value ≠ "") :
    (headerOf prompt).field key = some value := by
  obtain ⟨-, rfl⟩ := toPrompt_eq_ok.mp h
  by_cases hname : key = "name".toList
  · rw [hname, field_name] at hfield
    rw [hname, field_name]
    simp [headerOf, hfield, hne hname]
  · rw [← hfield]
    simp only [Header.field, if_neg hname, headerOf]

theorem Entry.stored {line key value : List Char} (h : Entry line key value) {rules : Rules}
    {before after body : List (List Char)} {prompt : Prompt}
    (hrecord : record? rules (before ++ line :: after) body = some prompt) :
    Stored prompt line after := by
  obtain ⟨said, hsaid, hprompt⟩ := record?_eq_some.mp hrecord
  refine ⟨key, value, h, ?_⟩
  by_cases hlater : ∃ l ∈ after, ∃ value', Entry l key value'
  · exact .inr hlater
  · push Not at hlater
    obtain ⟨value?, hlast, hfield⟩ := (holds_of_readAll hsaid).field key
    have hvalue : LastValue (before ++ line :: after) key (some value) :=
      ⟨before, line, after, rfl, h, hlater⟩
    rw [hvalue.unique hlast] at hfield
    left
    apply field_headerOf hprompt hfield
    intro hname hempty
    rw [keptAs_of_ne (by rw [hname]; decide +kernel)] at hempty
    exact h.value_ne_nil (by rw [← String.toList_ofList (l := value), hempty]; rfl)

/-- A visible line that a header can have, and that is not skipped, is an entry. -/
theorem Visible.entry {line : List Char} (h : Visible line) (hearly : ¬ClosedEarly line)
    (hline : HeaderLine line) : ∃ key value, Entry line key value := by
  cases hline with
  | blank hblank => exact absurd hblank h.trim_ne_nil
  | remark hremark => exact absurd (h.remark_iff.mp hremark) hearly
  | entry hentry => exact ⟨_, _, hentry⟩

/-- A visible header line of an accepted record is stored, if no comment in it is closed
early. -/
theorem Visible.stored_iff {line : List Char} (h : Visible line) {rules : Rules}
    {before after body : List (List Char)} {prompt : Prompt}
    (hrecord : record? rules (before ++ line :: after) body = some prompt) :
    Stored prompt line after ↔ ¬ClosedEarly line := by
  constructor
  · intro hstored hearly
    obtain ⟨key, value, hentry, -⟩ := hstored
    exact hentry.plain (h.remark_iff.mpr hearly)
  · intro hearly
    have hheader := (exists_record? body).mp ⟨prompt, hrecord⟩
    obtain ⟨key, value, hentry⟩ := h.entry hearly (hheader.lines line (by simp))
    exact hentry.stored hrecord

/-- The visible lines of a text are those of its body that are no comments. -/
theorem BodyText.filter_visible {body : List (List Char)} {text : List Char}
    (h : BodyText body text) (hbody : ∀ line ∈ body, '\n' ∉ line) :
    (text.splitOn '\n').filter (Visible ·) =
      body.filter fun line => Visible line ∧ ¬ClosedEarly line := by
  obtain ⟨before, middle, after, hcut, hblank, -, -, rfl⟩ := h
  have hunseen {ls : List (List Char)} (hls : ∀ line ∈ ls, trim line = []) :
      ls.filter (Visible ·) = [] := by
    rw [List.filter_eq_nil_iff]
    intro line hm
    simpa using fun hvisible => Visible.trim_ne_nil hvisible (hls line hm)
  have hsplit : (['\n'].intercalate middle |>.splitOn '\n').filter (Visible ·) =
      middle.filter (Visible ·) := by
    by_cases hnil : middle = []
    · rw [hnil]
      exact hunseen (by simp)
    · have hmiddle : ∀ line ∈ middle, '\n' ∉ line := by
        intro line hm
        have hshown : line ∈ before ++ middle ++ after := by simp [hm]
        rw [← hcut] at hshown
        exact hbody line (List.mem_of_mem_filter hshown)
      rw [List.splitOn_intercalate '\n' hmiddle hnil]
  calc (['\n'].intercalate middle |>.splitOn '\n').filter (Visible ·)
      = middle.filter (Visible ·) := hsplit
    _ = (before ++ middle ++ after).filter (Visible ·) := by
        rw [List.filter_append, List.filter_append,
          hunseen fun line hm => hblank line (List.mem_append_left _ hm),
          hunseen fun line hm => hblank line (List.mem_append_right _ hm), List.nil_append,
          List.append_nil]
    _ = (body.filter fun line => ¬Remark line).filter (Visible ·) := by rw [hcut]
    _ = body.filter fun line => Visible line ∧ ¬ClosedEarly line := by
        rw [List.filter_filter]
        apply List.filter_congr
        intro line _
        by_cases hvisible : Visible line
        · simp [hvisible, hvisible.remark_iff]
        · simp [hvisible]

/-- A header line at fault is reported, if nothing before it is. -/
theorem Refused.reported {line : List Char} {fault : Fault} (h : Refused line fault) (rules : Rules)
    {before after : List (List Char)} (hinside : before.countP isFence % 2 = 1)
    (hfence : isFence line = false) :
    ∃ error, parseLines rules (before ++ line :: after) = .error error ∧
      (error = ⟨fault, before.length + 1⟩ ∨
        Earlier (before ++ line :: after) error ⟨fault, before.length + 1⟩) := by
  have hfault : FaultOf rules (before ++ line :: after) ⟨fault, before.length + 1⟩ :=
    .line rfl hinside hfence h
  cases hparse : parseLines rules (before ++ line :: after) with
  | ok prompts => exact absurd hfault (not_faultOf_of_parseLines hparse _)
  | error error =>
    exact ⟨error, rfl, ((breaks_of_parseLines hparse).first hfault).imp_left Eq.symm⟩

/-- **No visible line is lost, unless a comment in it is closed early.** Whatever is skipped
otherwise is one comment and nothing else. Each record of an accepted text keeps the visible
lines of its body, and stores those of its header. In any text, a visible line of a header is an
entry, or it is refused, and reported if nothing is at fault before it. -/
theorem parse_keeps_visible (rules : Rules) (text : String) :
    (∀ line, (isComment (trim line) = true → SoleComment line) ↔ ¬ClosedEarly line) ∧
    (∀ prompts, parse rules text = .ok prompts →
      (segmentsOf text).length = 2 * prompts.length + 1 ∧
      ∀ k prompt, prompts[k]? = some prompt → ∃ header body,
        (segmentsOf text)[2 * k + 1]? = some header ∧ (segmentsOf text)[2 * k + 2]? = some body ∧
        (∀ before line after, header = before ++ line :: after → Visible line →
          (Stored prompt line after ↔ ¬ClosedEarly line)) ∧
        (prompt.body.toList.splitOn '\n').filter (Visible ·) =
          body.filter fun line => Visible line ∧ ¬ClosedEarly line) ∧
    (∀ before line after, lines text.toList = before ++ line :: after →
      before.countP isFence % 2 = 1 → isFence line = false → Visible line → ¬ClosedEarly line →
      (HeaderLine line ∧ ∃ key value, Entry line key value) ∨
        ∃ fault error, Refused line fault ∧ parse rules text = .error error ∧
          (error = ⟨fault, before.length + 1⟩ ∨
            Earlier (lines text.toList) error ⟨fault, before.length + 1⟩)) := by
  refine ⟨fun line => ?_, fun prompts hparse => ?_, ?_⟩
  · rw [isComment_trim_iff]
    exact sole_of_remark_iff
  · obtain ⟨hlength, hrecords⟩ := record_of_parse hparse
    refine ⟨hlength, fun k prompt hk => ?_⟩
    obtain ⟨header, body, hheader, hbody, hrecord⟩ := hrecords k prompt hk
    refine ⟨header, body, hheader, hbody, ?_, ?_⟩
    · rintro before line after rfl hvisible
      exact hvisible.stored_iff hrecord
    · apply (describes_of_record? hrecord).body.filter_visible
      intro line hm
      apply newline_not_mem_lines text.toList
      exact mem_of_mem_segments (List.mem_of_getElem? hbody) hm
  · intro before line after hcut hinside hfence hvisible hearly
    rcases headerLine_or_refused line with hline | ⟨fault, hrefused⟩
    · exact .inl ⟨hline, hvisible.entry hearly hline⟩
    · right
      rw [parse, hcut]
      obtain ⟨error, hparse, hfirst⟩ := hrefused.reported rules hinside hfence
      exact ⟨fault, error, hrefused, hparse, hfirst⟩

/-- The text between two comments of one line is lost. -/
theorem parse_loses_between_comments :
    parse {} "---\nname: A\n---\n<!-- a --> kept <!-- b -->\n" =
      .ok [⟨"A", "", none, none, none, .empty, none⟩] ∧
    isComment (trim "<!-- a --> kept <!-- b -->".toList) = true ∧
    Visible "<!-- a --> kept <!-- b -->".toList ∧
    ¬SoleComment "<!-- a --> kept <!-- b -->".toList := by
  refine ⟨by decide +kernel, by decide +kernel, by decide +kernel, fun h => ?_⟩
  exact h.not_closedEarly (by decide +kernel)

end Promptbook.Template
