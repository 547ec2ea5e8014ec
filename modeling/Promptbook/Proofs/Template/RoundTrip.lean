import Promptbook.Proofs.Template.Accepted

/-! Writing prompts and reading them again.

A prompt is writable if it is well formed and no line of its body ends with a carriage
return. These are exactly the prompts that come back when they are written and read
(`parse_writeAll_iff_writable`): a carriage return at the end of a line is lost with the
break, and where the rest of the line is then a fence, the fence is one too many. -/
namespace Promptbook.Template
open Text

/-- No line of the body ends with a carriage return. -/
def Unreturned (prompt : Prompt) : Prop :=
  ∀ line ∈ prompt.body.toList.splitOn '\n', line.getLast? ≠ some '\r'

/-- A prompt that is written without loss. -/
structure Writable (rules : Rules) (prompt : Prompt) : Prop extends WellFormed rules prompt where
  unreturned : Unreturned prompt

/-- The prompt without the carriage returns at the ends of its body lines, one for each line. -/
def returned (prompt : Prompt) : Prompt :=
  { prompt with
    body := String.ofList (joinLines ((prompt.body.toList.splitOn '\n').map withoutReturn)) }

/-! ### The lines of a written text -/

theorem newline_not_mem_recordLines {rules : Rules} {prompt : Prompt} (h : WellFormed rules prompt) :
    ∀ line ∈ recordLines prompt, '\n' ∉ line := by
  have hfence : '\n' ∉ fence := by decide
  have hheader : ∀ line ∈ headerLines prompt, '\n' ∉ line := by
    intro line hm
    obtain ⟨p, hp, rfl⟩ := List.mem_map.mp hm
    exact newline_not_mem_pairLine (pairable_headerPairs h p hp)
  have hbody : ∀ line ∈ bodyLines prompt, '\n' ∉ line := by
    intro line hm
    rw [bodyLines] at hm
    split at hm
    · cases hm
    · exact newline_not_mem_splitOn _ line hm
  intro line hm
  simp only [recordLines, List.mem_append, List.mem_cons] at hm
  rcases hm with (rfl | hm) | rfl | hm
  · exact hfence
  · exact hheader line hm
  · exact hfence
  · exact hbody line hm

/-- **A written text is cut into the lines of its records, each without a return at its end.** -/
theorem lines_writeAll {rules : Rules} {prompts : List Prompt}
    (h : ∀ p ∈ prompts, WellFormed rules p) :
    lines (writeAll prompts).toList = (prompts.flatMap recordLines).map withoutReturn := by
  rw [toList_writeAll, lines_unlines]
  intro line hm
  obtain ⟨p, hp, hm⟩ := List.mem_flatMap.mp hm
  exact newline_not_mem_recordLines (h p hp) line hm

/-- Fences and header lines end with something visible. -/
theorem withoutReturn_headerLines {rules : Rules} {prompt : Prompt} (h : WellFormed rules prompt) :
    (headerLines prompt).map withoutReturn = headerLines prompt := by
  rw [headerLines, List.map_map]
  apply List.map_congr_left
  intro p hp
  have hpair := pairable_headerPairs h p hp
  apply withoutReturn_of_ne
  intro hr
  have hvisible := (trim_eq_self_iff.mp (trim_pairLine hpair)).2 _ hr
  cases hvisible

theorem map_withoutReturn_recordLines {rules : Rules} {prompt : Prompt}
    (h : WellFormed rules prompt) :
    (recordLines prompt).map withoutReturn =
      fence :: headerLines prompt ++ fence :: (bodyLines prompt).map withoutReturn := by
  have hfence : withoutReturn fence = fence := rfl
  rw [recordLines, List.map_append, List.map_cons, List.map_cons, hfence,
    withoutReturn_headerLines h]

/-- A visible line is there to be seen. -/
theorem joinLines_ne_nil {ls : List (List Char)} (hne : ls ≠ [])
    (h : ∀ line ∈ ls.head?, allBlank line = false) : joinLines ls ≠ [] := by
  obtain ⟨line, rest, rfl⟩ := List.exists_cons_of_ne_nil hne
  have hline : line ≠ [] := by
    intro h
    subst h
    exact absurd (h [] rfl) (by decide)
  cases rest with
  | nil => exact hline
  | cons next more =>
    rw [joinLines_cons_cons]
    simp

/-- A line stays visible without the return at its end. -/
theorem visible_withoutReturn {line : Option (List Char)} (h : ∀ l ∈ line, allBlank l = false) :
    ∀ l ∈ line.map withoutReturn, allBlank l = false := by
  intro l hm
  obtain ⟨l, hl, rfl⟩ := Option.map_eq_some_iff.mp hm
  rw [allBlank_withoutReturn]
  exact h l hl

theorem returned_of_empty {prompt : Prompt} (h : prompt.body = "") : (returned prompt).body = "" := by
  rw [returned, h]
  rfl

theorem splitOn_returned {prompt : Prompt} (h : BodyLines (prompt.body.toList.splitOn '\n')) :
    (returned prompt).body ≠ "" ∧ (returned prompt).body.toList.splitOn '\n' =
      (prompt.body.toList.splitOn '\n').map withoutReturn := by
  have hne : (prompt.body.toList.splitOn '\n').map withoutReturn ≠ [] := by
    simp [List.splitOn_ne_nil]
  have hnewline : ∀ line ∈ (prompt.body.toList.splitOn '\n').map withoutReturn, '\n' ∉ line := by
    intro line hm
    obtain ⟨l, hl, rfl⟩ := List.mem_map.mp hm
    exact fun hc => newline_not_mem_splitOn _ l hl (mem_of_mem_withoutReturn hc)
  have hfirst : ∀ line ∈ ((prompt.body.toList.splitOn '\n').map withoutReturn).head?,
      allBlank line = false := by
    rw [List.head?_map]
    exact visible_withoutReturn h.first
  rw [← String.toList_eq_nil_iff.ne, returned, String.toList_ofList]
  exact ⟨joinLines_ne_nil hne hfirst, splitOn_joinLines hnewline hne⟩

theorem bodyLines_returned {rules : Rules} {prompt : Prompt} (h : WellFormed rules prompt) :
    bodyLines (returned prompt) = (bodyLines prompt).map withoutReturn := by
  rw [bodyLines, bodyLines]
  by_cases hempty : prompt.body = ""
  · rw [if_pos hempty, if_pos (returned_of_empty hempty)]
    rfl
  · obtain ⟨hreturned, hsplit⟩ := splitOn_returned (h.body.resolve_left hempty)
    rw [if_neg hempty, if_neg hreturned, hsplit]

theorem recordLines_returned {rules : Rules} {prompt : Prompt} (h : WellFormed rules prompt) :
    recordLines (returned prompt) = (recordLines prompt).map withoutReturn := by
  rw [map_withoutReturn_recordLines h, recordLines, bodyLines_returned h]
  rfl

/-! ### Fences -/

/-- **Records that are accepted as many as they are hide no fence.** -/
theorem countP_isFence_returned {rules : Rules} {prompts : List Prompt}
    (h : ∀ p ∈ prompts, WellFormed rules p) :
    2 * prompts.length ≤ ((prompts.flatMap recordLines).map withoutReturn).countP isFence ∧
      (((prompts.flatMap recordLines).map withoutReturn).countP isFence = 2 * prompts.length →
        ∀ p ∈ prompts, ((bodyLines p).map withoutReturn).countP isFence = 0) := by
  induction prompts with
  | nil => simp
  | cons p prompts ih =>
    obtain ⟨hle, hall⟩ := ih fun q hq => h q (List.mem_cons_of_mem _ hq)
    have hrecord : 2 + ((bodyLines p).map withoutReturn).countP isFence ≤
        ((recordLines p).map withoutReturn).countP isFence := by
      have hfence : isFence fence = true := rfl
      rw [map_withoutReturn_recordLines (h p List.mem_cons_self), List.countP_append,
        List.countP_cons, List.countP_cons, hfence]
      simp only [if_true]
      omega
    rw [List.flatMap_cons, List.map_append, List.countP_append, List.length_cons]
    refine ⟨by omega, fun heq q hq => ?_⟩
    rcases List.mem_cons.mp hq with rfl | hq
    · omega
    · exact hall (by omega) q hq

theorem wellFormed_returned {rules : Rules} {prompt : Prompt} (h : WellFormed rules prompt)
    (hf : ((bodyLines prompt).map withoutReturn).countP isFence = 0) :
    WellFormed rules (returned prompt) := by
  refine ⟨h.named, h.name, h.model, h.extract, h.options, ?_⟩
  by_cases hempty : prompt.body = ""
  · exact .inl (returned_of_empty hempty)
  · have hbody := h.body.resolve_left hempty
    obtain ⟨-, hsplit⟩ := splitOn_returned hbody
    rw [bodyLines, if_neg hempty, List.countP_eq_zero] at hf
    right
    rw [hsplit]
    refine ⟨?_, ?_, fun line hm => ?_, fun line hm => ?_⟩
    · rw [List.head?_map]
      exact visible_withoutReturn hbody.first
    · rw [List.getLast?_map]
      exact visible_withoutReturn hbody.last
    · exact Bool.not_eq_true _ ▸ hf line hm
    · obtain ⟨l, hl, rfl⟩ := List.mem_map.mp hm
      rw [trim_withoutReturn]
      exact hbody.comment l hl

theorem map_withoutReturn_of_unreturned {rules : Rules} {prompt : Prompt}
    (h : WellFormed rules prompt) (hu : Unreturned prompt) :
    (recordLines prompt).map withoutReturn = recordLines prompt := by
  have hbody : (bodyLines prompt).map withoutReturn = bodyLines prompt := by
    rw [map_withoutReturn_eq_self_iff, bodyLines]
    split
    · simp
    · exact hu
  rw [map_withoutReturn_recordLines h, hbody, recordLines]

theorem unreturned_of_returned {prompt : Prompt}
    (hb : prompt.body = "" ∨ BodyLines (prompt.body.toList.splitOn '\n'))
    (h : returned prompt = prompt) : Unreturned prompt := by
  intro line hm
  rcases hb with hempty | hbody
  · rw [hempty] at hm
    obtain rfl : line = [] := by simpa using hm
    simp
  · obtain ⟨-, hsplit⟩ := splitOn_returned hbody
    rw [h] at hsplit
    exact map_withoutReturn_eq_self_iff.mp hsplit.symm line hm

/-- **Well formed prompts come back if and only if no body line ends with a carriage return.** -/
theorem parse_writeAll_of_wellFormed {rules : Rules} {prompts : List Prompt}
    (h : ∀ p ∈ prompts, WellFormed rules p) (hs : ∀ p ∈ prompts, p.sourceFile = none) :
    parse rules (writeAll prompts) = .ok prompts ↔ ∀ p ∈ prompts, Unreturned p := by
  rw [parse, lines_writeAll h]
  constructor
  · intro hparse
    have hfences := (countP_isFence_returned h).2 (countP_isFence_of_parseLines hparse)
    have hlines : (prompts.flatMap recordLines).map withoutReturn =
        (prompts.map returned).flatMap recordLines := by
      rw [List.map_flatMap, List.flatMap_map]
      exact List.flatMap_congr fun p hp => (recordLines_returned (h p hp)).symm
    have hreturned : ∀ p ∈ prompts.map returned, WellFormed rules p ∧ p.sourceFile = none := by
      intro q hq
      obtain ⟨p, hp, rfl⟩ := List.mem_map.mp hq
      exact ⟨wellFormed_returned (h p hp) (hfences p hp), hs p hp⟩
    rw [hlines, parseLines_records (fun p hp => (hreturned p hp).1)
      fun p hp => (hreturned p hp).2] at hparse
    have hsame : prompts.map returned = prompts.map id := by
      rw [List.map_id]
      exact Except.ok.inj hparse
    intro p hp
    exact unreturned_of_returned (h p hp).body (List.map_inj_left.mp hsame p hp)
  · intro hu
    have hlines : (prompts.flatMap recordLines).map withoutReturn = prompts.flatMap recordLines := by
      rw [List.map_flatMap]
      exact List.flatMap_congr fun p hp => map_withoutReturn_of_unreturned (h p hp) (hu p hp)
    rw [hlines]
    exact parseLines_records h hs

theorem wellFormed_of_parse {rules : Rules} {text : String} {prompts : List Prompt}
    (h : parse rules text = .ok prompts) :
    ∀ p ∈ prompts, WellFormed rules p ∧ p.sourceFile = none :=
  wellFormed_of_parseLines (newline_not_mem_lines text.toList) h

/-- **Prompts come back from a written text if and only if each of them is writable.** -/
theorem parse_writeAll_iff_writable {rules : Rules} {prompts : List Prompt}
    (hs : ∀ p ∈ prompts, p.sourceFile = none) :
    parse rules (writeAll prompts) = .ok prompts ↔ ∀ p ∈ prompts, Writable rules p := by
  constructor
  · intro h
    have hwell : ∀ p ∈ prompts, WellFormed rules p := fun p hp => (wellFormed_of_parse h p hp).1
    have hu := (parse_writeAll_of_wellFormed hwell hs).mp h
    exact fun p hp => ⟨hwell p hp, hu p hp⟩
  · intro h
    exact (parse_writeAll_of_wellFormed (fun p hp => (h p hp).toWellFormed) hs).mpr
      fun p hp => (h p hp).unreturned

/-- A prompt with a pattern, a setting and a body of two lines is writable. -/
theorem writable_greeting :
    Writable {} ⟨"Greet", "Hello\n$input", some "llama3", some "a+\n", some .after,
      Options.empty.insert "top" "1", none⟩ := by
  have h : parse {} (writeAll [⟨"Greet", "Hello\n$input", some "llama3", some "a+\n", some .after,
      Options.empty.insert "top" "1", none⟩]) =
      .ok [⟨"Greet", "Hello\n$input", some "llama3", some "a+\n", some .after,
        Options.empty.insert "top" "1", none⟩] := by
    decide +kernel
  exact (parse_writeAll_iff_writable (by simp)).mp h _ List.mem_cons_self

/-- **What was read comes back from a written text if and only if no line of a body ends with
a carriage return.** -/
theorem parse_writeAll_of_parse {rules : Rules} {text : String} {prompts : List Prompt}
    (h : parse rules text = .ok prompts) :
    parse rules (writeAll prompts) = .ok prompts ↔
      ∀ p ∈ prompts, ∀ line ∈ p.body.toList.splitOn '\n', line.getLast? ≠ some '\r' :=
  parse_writeAll_of_wellFormed (fun p hp => (wellFormed_of_parse h p hp).1)
    fun p hp => (wellFormed_of_parse h p hp).2

theorem parse_writeAll_of_parse_return :
    parse {} (writeAll [⟨"A", "abc\r", none, none, none, .empty, none⟩]) =
        .ok [⟨"A", "abc\r", none, none, none, .empty, none⟩] ↔
      ∀ p ∈ [(⟨"A", "abc\r", none, none, none, .empty, none⟩ : Prompt)],
        ∀ line ∈ p.body.toList.splitOn '\n', line.getLast? ≠ some '\r' := by
  have h : parse {} "---\nname: A\n---\nabc\r\r\n" =
      .ok [⟨"A", "abc\r", none, none, none, .empty, none⟩] := by
    decide +kernel
  exact parse_writeAll_of_parse h

/-- A carriage return at the end of a body line is read, but not read again. -/
theorem parse_writeAll_loses_return :
    parse {} "---\nname: A\n---\nabc\r\r\n" =
        .ok [⟨"A", "abc\r", none, none, none, .empty, none⟩] ∧
      parse {} (writeAll [⟨"A", "abc\r", none, none, none, .empty, none⟩]) =
        .ok [⟨"A", "abc", none, none, none, .empty, none⟩] := by
  decide +kernel

end Promptbook.Template
