import Promptbook.Proofs.Template.FirstFault

/-! Records without a name.

A reader that asks for names is stricter than one that does not in this alone: besides the
faults that both find, it finds one in every record that has no name (`FaultOf.strict_cases`).
Names are asked for last in a record, so such a record is what a text is refused for if it comes
before the record of the other's fault, and otherwise both give the same
(`strict_of_lenient`). -/
namespace Promptbook.Template
open Text

namespace Rules

/-- Every record has to have a name. -/
def strict : Rules := { requireName := true }

/-- Records without a name are read, too. -/
def lenient : Rules := { requireName := false }

end Rules

/-! ### Records by their number -/

/-- The fence at this line opens this record of a text; the records are counted from zero. -/
def OpensRecord (ls : List (List Char)) (k number : Nat) : Prop :=
  ∃ before opening after, ls = before ++ opening :: after ∧ number = before.length + 1 ∧
    isFence opening = true ∧ before.countP isFence = 2 * k

/-- The header of this record is closed, and none of its lines gives a name. -/
def Nameless (ls : List (List Char)) (k : Nat) : Prop :=
  ∃ header body, (segments ls)[2 * k + 1]? = some header ∧ (segments ls)[2 * k + 2]? = some body ∧
    ∀ line ∈ header, ∀ value, ¬Entry line "name".toList value

section
variable {ls : List (List Char)} {k number : Nat}

theorem OpensRecord.recordsBefore (h : OpensRecord ls k number) :
    recordsBefore ls number = k := by
  obtain ⟨before, opening, after, rfl, rfl, -, hcount⟩ := h
  rw [recordsBefore_append, hcount]
  omega

/-- A fence further down has more fences before it. -/
theorem OpensRecord.le (h : OpensRecord ls k number) {other : Nat} (h' : OpensRecord ls k other) :
    number ≤ other := by
  obtain ⟨before, opening, after, rfl, rfl, -, hcount⟩ := h
  obtain ⟨before', opening', after', hcut, rfl, hopening', hcount'⟩ := h'
  by_contra hlt
  obtain ⟨mid, rfl, -⟩ := eq_append_of_length_lt hcut (by omega)
  rw [List.countP_append, List.countP_cons_of_pos hopening'] at hcount
  omega

/-- A record is opened by one fence. -/
theorem OpensRecord.unique (h : OpensRecord ls k number) {other : Nat}
    (h' : OpensRecord ls k other) : other = number :=
  Nat.le_antisymm (h'.le h) (h.le h')

/-! ### Faults of both readers -/

theorem FaultOf.strict {error : ParseError} (h : FaultOf .lenient ls error) :
    FaultOf .strict ls error := by
  cases h with
  | line hcut hinside hfence hrefused => exact .line hcut hinside hfence hrefused
  | unclosed hcut houtside hopening hheader => exact .unclosed hcut houtside hopening hheader
  | nameless hrules => cases hrules

/-- The faults that both find come before the name of their record. -/
theorem FaultOf.turn_lt {error : ParseError} (h : FaultOf .lenient ls error) :
    error.fault.turn < 2 := by
  cases h with
  | line _ _ _ hrefused =>
    rw [hrefused.turn]
    exact Nat.zero_lt_two
  | unclosed => exact Nat.one_lt_two
  | nameless hrules => cases hrules

theorem Nameless.faultOf (h : Nameless ls k) :
    ∃ number, OpensRecord ls k number ∧ FaultOf .strict ls ⟨.missingName, number⟩ := by
  obtain ⟨header, body, hheader, -, hname⟩ := h
  obtain ⟨before, opening, after, rfl, hopening, hcount, hfences, hafter⟩ := exists_opening hheader
  exact ⟨_, ⟨before, opening, _, rfl, rfl, hopening, hcount⟩,
    .nameless rfl rfl (by omega) hopening hfences hafter hname⟩

/-- **Being strict adds faults at the records without a name alone.** If such a record is not
even closed, both readers find that. -/
theorem FaultOf.strict_cases {error : ParseError} (h : FaultOf .strict ls error) :
    FaultOf .lenient ls error ∨ error.fault = .missingName ∧ ∃ k, OpensRecord ls k error.line ∧
      (Nameless ls k ∨ FaultOf .lenient ls ⟨.missingClosingFence, error.line⟩) := by
  cases h with
  | line hcut hinside hfence hrefused => exact .inl (.line hcut hinside hfence hrefused)
  | unclosed hcut houtside hopening hheader => exact .inl (.unclosed hcut houtside hopening hheader)
  | @nameless before opening header after _ hcut houtside hopening hheader hafter hname =>
    have hcount : before.countP isFence = 2 * (before.countP isFence / 2) := by omega
    refine .inr ⟨rfl, _, ⟨before, opening, _, hcut, rfl, hopening, hcount⟩, ?_⟩
    cases after with
    | nil =>
      rw [List.append_nil] at hcut
      exact .inr (.unclosed hcut houtside hopening hheader)
    | cons closing after =>
      have hsegments : segments (header ++ closing :: after) = header :: segments after :=
        segments_append_cons hheader (hafter closing rfl) after
      obtain ⟨body, rest, hbody⟩ := List.exists_cons_of_ne_nil (segments_ne_nil after)
      refine .inl ⟨header, body, ?_, ?_, hname⟩
      · rw [← hcount, ← Nat.add_zero (_ + 1), hcut, getElem?_segments before hopening, hsegments]
        rfl
      · rw [← hcount, ← Nat.add_assoc _ 1 1, hcut, getElem?_segments before hopening, hsegments,
          hbody]
        rfl

/-- **The first record without a name is what a text is refused for**, if no other fault comes
before it or in it. -/
theorem strict_of_nameless (h : Nameless ls k) (hfirst : ∀ j < k, ¬Nameless ls j)
    (hothers : ∀ error, FaultOf .lenient ls error → k < recordsBefore ls error.line) :
    ∃ number, OpensRecord ls k number ∧
      parseLines .strict ls = .error ⟨.missingName, number⟩ := by
  obtain ⟨number, hopens, hfault⟩ := h.faultOf
  refine ⟨number, hopens, parseLines_eq_error_iff.mpr ⟨hfault, fun other hother => ?_⟩⟩
  -- Any other fault is one of a later record, for there are no nameless ones before this.
  rcases hother.strict_cases with hboth | ⟨hname, j, hj, hnameless | hunclosed⟩
  · refine .inr (.inl ?_)
    rw [hopens.recordsBefore]
    exact hothers other hboth
  · have hle : k ≤ j := Nat.le_of_not_lt fun hlt => hfirst j hlt hnameless
    rcases Nat.lt_or_eq_of_le hle with hlt | rfl
    · refine .inr (.inl ?_)
      rwa [hopens.recordsBefore, hj.recordsBefore]
    · obtain ⟨fault, line⟩ := other
      obtain rfl : fault = .missingName := hname
      obtain rfl : line = number := hopens.unique hj
      exact .inl rfl
  · refine .inr (.inl ?_)
    rw [hopens.recordsBefore]
    exact hothers ⟨.missingClosingFence, other.line⟩ hunclosed

theorem recordsBefore_le_of_first {a b : ParseError} (h : b = a ∨ Earlier ls a b) :
    recordsBefore ls a.line ≤ recordsBefore ls b.line := by
  rcases h with rfl | hlt | ⟨heq, -⟩
  · exact Nat.le_refl _
  · exact Nat.le_of_lt hlt
  · exact Nat.le_of_eq heq

/-- **Behind the first fault of both, no name is asked for.** -/
theorem strict_of_error {error : ParseError} (h : parseLines .lenient ls = .error error)
    (hnameless : ∀ k, Nameless ls k → recordsBefore ls error.line ≤ k) :
    parseLines .strict ls = .error error := by
  obtain ⟨hfault, hfirst⟩ := parseLines_eq_error_iff.mp h
  refine parseLines_eq_error_iff.mpr ⟨hfault.strict, fun other hother => ?_⟩
  rcases hother.strict_cases with hboth | ⟨hname, k, hk, hmissing⟩
  · exact hfirst other hboth
  · -- A missing name may be in the same record, but then it is asked for later.
    have hle : recordsBefore ls error.line ≤ recordsBefore ls other.line := by
      rcases hmissing with hmissing | hunclosed
      · exact hk.recordsBefore ▸ hnameless k hmissing
      · have hle := recordsBefore_le_of_first (hfirst ⟨.missingClosingFence, other.line⟩ hunclosed)
        exact hle
    have hturn : other.fault.turn = 2 := by rw [hname]; rfl
    have hlt := hfault.turn_lt
    unfold Earlier
    omega

/-! ### Prompts without a name -/

theorem HeaderSegment.lenient {header : List (List Char)} (h : HeaderSegment .strict header) :
    HeaderSegment .lenient header :=
  ⟨h.lines, nofun⟩

/-- A strict reader accepts nothing that the lenient one does not. -/
theorem lenient_of_strict {prompts : List Prompt} (h : parseLines .strict ls = .ok prompts) :
    parseLines .lenient ls = .ok prompts := by
  rw [← toOption_eq_some_iff, toOption_parseLines, records?_eq_some_iff] at h ⊢
  obtain ⟨hlength, hrecords⟩ := h
  refine ⟨hlength, fun k prompt hk => ?_⟩
  obtain ⟨header, body, hheader, hbody, hrecord⟩ := hrecords k prompt hk
  obtain ⟨hsegment, hdescribes⟩ := record?_eq_some_iff.mp hrecord
  exact ⟨header, body, hheader, hbody, record?_eq_some_iff.mpr ⟨hsegment.lenient, hdescribes⟩⟩

/-- A prompt has an empty name if and only if its header gives none. -/
theorem Describes.name_eq_empty_iff {header body : List (List Char)} {prompt : Prompt}
    (h : Describes header body prompt) :
    prompt.name = "" ↔ ∀ line ∈ header, ∀ value, ¬Entry line "name".toList value := by
  obtain ⟨value?, hlast, hname⟩ := h.name
  cases value? with
  | none => exact ⟨fun _ => hlast, fun _ => hname⟩
  | some value =>
    obtain ⟨before, line, after, rfl, hentry, -⟩ := hlast
    constructor
    · intro hempty
      have hvalue : value = [] := by simpa [hempty] using hname.symm
      exact absurd hvalue hentry.value_ne_nil
    · intro hnone
      exact absurd hentry (hnone line (by simp) value)

/-- **The prompts with an empty name are those of the records without one.** -/
theorem nameless_iff {prompts : List Prompt} (h : parseLines .lenient ls = .ok prompts) :
    Nameless ls k ↔ ∃ prompt, prompts[k]? = some prompt ∧ prompt.name = "" := by
  have hoption := toOption_parseLines .lenient ls
  rw [h] at hoption
  obtain ⟨hlength, hrecords⟩ := records?_eq_some_iff.mp hoption.symm
  obtain ⟨first, rest, hcut⟩ := List.exists_cons_of_ne_nil (segments_ne_nil ls)
  rw [hcut, List.tail_cons] at hlength hrecords
  simp only [Nameless, hcut, List.getElem?_cons_succ]
  constructor
  · intro hnameless
    obtain ⟨header, body, hheader, -, hname⟩ := hnameless
    have hlt := (List.getElem?_eq_some_iff.mp hheader).1
    have hk : k < prompts.length := by omega
    obtain ⟨header', body', hheader', -, hrecord⟩ :=
      hrecords k prompts[k] (List.getElem?_eq_getElem hk)
    obtain rfl := Option.some.inj (hheader.symm.trans hheader')
    exact ⟨prompts[k], List.getElem?_eq_getElem hk,
      (describes_of_record? hrecord).name_eq_empty_iff.mpr hname⟩
  · intro hprompt
    obtain ⟨prompt, hk, hname⟩ := hprompt
    obtain ⟨header, body, hheader, hbody, hrecord⟩ := hrecords k prompt hk
    exact ⟨header, body, hheader, hbody,
      (describes_of_record? hrecord).name_eq_empty_iff.mp hname⟩

theorem strict_of_named {prompts : List Prompt} (h : parseLines .lenient ls = .ok prompts)
    (hnames : ∀ p ∈ prompts, p.name ≠ "") : parseLines .strict ls = .ok prompts := by
  cases hstrict : parseLines .strict ls with
  | ok prompts' => rw [← h, lenient_of_strict hstrict]
  | error error =>
    have hnone := not_faultOf_of_parseLines h
    rcases (parseLines_eq_error_iff.mp hstrict).1.strict_cases with
      hboth | ⟨-, k, -, hnameless | hunclosed⟩
    · exact absurd hboth (hnone error)
    · obtain ⟨prompt, hk, hname⟩ := (nameless_iff h).mp hnameless
      exact absurd hname (hnames prompt (List.mem_of_getElem? hk))
    · exact absurd hunclosed (hnone _)

end

/-! ### Both readers, side by side -/

/-- **Strict and lenient reading differ in records without a name alone.** Where the lenient
reader gives prompts, the strict one gives the same if all have names, and otherwise refuses the
first that has none, at the fence that opens its record. Where the lenient reader refuses a
text, the strict one does so for the same fault at the same line, unless a record with a closed
header and no name comes before the one at fault: then it refuses the first such record. -/
theorem strict_of_lenient (text : String) :
    (∀ prompts, parse .lenient text = .ok prompts →
      ((∀ p ∈ prompts, p.name ≠ "") → parse .strict text = .ok prompts) ∧
      ∀ k p, prompts[k]? = some p → p.name = "" → (∀ q ∈ prompts.take k, q.name ≠ "") →
        ∃ number, OpensRecord (lines text.toList) k number ∧
          parse .strict text = .error ⟨.missingName, number⟩) ∧
    (∀ error, parse .lenient text = .error error →
      ((∀ k, Nameless (lines text.toList) k → recordsBefore (lines text.toList) error.line ≤ k) →
        parse .strict text = .error error) ∧
      ∀ k, Nameless (lines text.toList) k → (∀ j < k, ¬Nameless (lines text.toList) j) →
        k < recordsBefore (lines text.toList) error.line →
        ∃ number, OpensRecord (lines text.toList) k number ∧
          parse .strict text = .error ⟨.missingName, number⟩) := by
  refine ⟨fun prompts h => ⟨strict_of_named h, fun k p hk hname hnamed => ?_⟩,
    fun error h => ⟨strict_of_error h, fun k hnameless hfirst hbefore => ?_⟩⟩
  · refine strict_of_nameless ((nameless_iff h).mpr ⟨p, hk, hname⟩) (fun j hj hnameless => ?_)
      fun error hfault => absurd hfault (not_faultOf_of_parseLines h error)
    obtain ⟨q, hq, hempty⟩ := (nameless_iff h).mp hnameless
    exact hnamed q (List.mem_of_getElem? ((List.getElem?_take_of_lt hj).trans hq)) hempty
  · refine strict_of_nameless hnameless hfirst fun other hother => ?_
    exact Nat.lt_of_lt_of_le hbefore
      (recordsBefore_le_of_first ((parseLines_eq_error_iff.mp h).2 other hother))

/-- Names that are given; one that is missing behind another record; one that is missing in the
record of another fault; and one that is missing before it. -/
theorem strict_of_lenient_notes :
    parse .strict "---\nname: A\n---\nfirst\n" =
      .ok [⟨"A", "first", none, none, none, .empty, none⟩] ∧
    (∃ number, OpensRecord (lines "---\nname: A\n---\n\n---\n---\n".toList) 1 number ∧
      parse .strict "---\nname: A\n---\n\n---\n---\n" = .error ⟨.missingName, number⟩) ∧
    parse .strict "---\nbroken\n---\n" = .error ⟨.malformedHeader "broken", 2⟩ ∧
    (parse .lenient "---\n---\n---\nbroken\n" = .error ⟨.malformedHeader "broken", 4⟩ ∧
      ∃ number, OpensRecord (lines "---\n---\n---\nbroken\n".toList) 0 number ∧
        parse .strict "---\n---\n---\nbroken\n" = .error ⟨.missingName, number⟩) := by
  have hbroken : parse .lenient "---\n---\n---\nbroken\n" =
      .error ⟨.malformedHeader "broken", 4⟩ := by
    decide +kernel
  have hnameless : Nameless (lines "---\n---\n---\nbroken\n".toList) 0 :=
    ⟨[], [], by decide +kernel, by decide +kernel, by simp⟩
  refine ⟨?_, ?_, ?_, hbroken, ?_⟩
  · exact ((strict_of_lenient "---\nname: A\n---\nfirst\n").1 _ (by decide +kernel)).1
      (by decide +kernel)
  · exact ((strict_of_lenient "---\nname: A\n---\n\n---\n---\n").1
      [⟨"A", "", none, none, none, .empty, none⟩, ⟨"", "", none, none, none, .empty, none⟩]
      (by decide +kernel)).2 1 _ rfl rfl (by decide +kernel)
  · refine ((strict_of_lenient "---\nbroken\n---\n").2 ⟨.malformedHeader "broken", 2⟩
      (by decide +kernel)).1 fun k _ => ?_
    have hfirst : recordsBefore (lines "---\nbroken\n---\n".toList) 2 = 0 := by decide +kernel
    exact hfirst ▸ Nat.zero_le k
  · exact ((strict_of_lenient "---\n---\n---\nbroken\n").2 _ hbroken).2 0 hnameless
      (fun j hj => absurd hj (Nat.not_lt_zero j)) (by decide +kernel)

end Promptbook.Template
