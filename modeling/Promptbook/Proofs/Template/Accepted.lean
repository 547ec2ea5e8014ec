import Promptbook.Proofs.Template.Records

/-! What a reading accepts.

One line moves a reading in one of seven ways (`moves_of_step`). Two things are kept by
every one of them. What has been read so far is well formed, in unfinished headers and
bodies too (`Sound`), so a text that is accepted gives well formed prompts only
(`wellFormed_of_parseLines`). And every prompt has taken two fences
(`countP_isFence_of_parseLines`), so no fence can go unnoticed. -/
namespace Promptbook.Template
open Text

/-! ### Headers -/

/-- A header in which every field can be written. -/
structure Header.Sound (header : Header) : Prop where
  name : ∀ name, header.name = some name → HeaderText name.toList
  model : ∀ model, header.model = some model → HeaderText model.toList
  extract : ∀ pattern, header.extract = some pattern → PatternText pattern
  options : ∀ p ∈ header.options.toList, OptionText p.1 p.2

theorem Header.sound_empty : ({} : Header).Sound where
  name _ h := nomatch h
  model _ h := nomatch h
  extract _ h := nomatch h
  options _ h := nomatch h

/-- An escaped pattern that is accepted comes back from its line. -/
theorem patternText_unescape {value : List Char} (hv : HeaderText value)
    (ha : Pattern.accepts (unescape value) = true) : PatternText (String.ofList (unescape value)) := by
  refine ⟨?_, by rwa [String.toList_ofList], ?_⟩
  · intro h
    apply unescape_ne_nil hv.nonempty
    rw [← String.toList_ofList (l := unescape value), h]
    rfl
  · rw [String.toList_ofList]
    exact trim_escape_unescape hv.trimmed

theorem Header.Sound.set {header next : Header} (hs : header.Sound) {key value : List Char}
    (hp : Pairable key value) (h : header.set key value = .ok next) : next.Sound := by
  have htext : HeaderText (String.ofList value).toList := by
    rw [String.toList_ofList]
    exact hp.valueText
  unfold Header.set at h
  split at h
  · obtain rfl := Except.ok.inj h
    exact ⟨fun _ e => Option.some.inj e ▸ htext, hs.model, hs.extract, hs.options⟩
  split at h
  · obtain rfl := Except.ok.inj h
    exact ⟨hs.name, fun _ e => Option.some.inj e ▸ htext, hs.extract, hs.options⟩
  split at h
  · simp only at h
    split at h
    · next ha =>
      obtain rfl := Except.ok.inj h
      exact ⟨hs.name, hs.model, fun _ e => Option.some.inj e ▸ patternText_unescape hp.valueText ha,
        hs.options⟩
    · cases h
  split at h
  · split at h
    · obtain rfl := Except.ok.inj h
      exact ⟨hs.name, hs.model, hs.extract, hs.options⟩
    · cases h
  next hname hmodel hextract hpaste =>
    obtain rfl := Except.ok.inj h
    refine ⟨hs.name, hs.model, hs.extract, fun p hm => ?_⟩
    rcases Options.mem_insertPair hm with rfl | hm
    · refine ⟨by simpa only [String.toList_ofList] using hp, ?_⟩
      rw [← Bool.not_eq_true, Prompt.isReservedKey_iff]
      intro e
      rcases e with e | e | e | e <;> rw [← String.toList_inj, String.toList_ofList] at e <;>
        contradiction
    · exact hs.options p hm

theorem Header.Sound.read {header next : Header} (hs : header.Sound) {line : List Char}
    (hn : '\n' ∉ line) (h : header.read (trim line) = .ok next) : next.Sound := by
  rw [Header.read] at h
  split at h
  · obtain rfl := Except.ok.inj h
    exact hs
  · next hskip =>
    rw [not_or, Bool.not_eq_true] at hskip
    cases hpair : Header.pair? (trim line) with
    | none =>
      rw [hpair] at h
      cases h
    | some pair =>
      rw [hpair] at h
      have hp := pairable_of_pair? (trim_trim line) (fun hm => hn (mem_of_mem_trim hm)) hskip.2 hpair
      exact hs.set hp h

/-! ### Bodies -/

/-- A line that is kept in a body. -/
structure Kept (line : List Char) : Prop where
  oneLine : '\n' ∉ line
  fence : isFence line = false
  comment : isComment (trim line) = false

theorem trimLines_sublist (ls : List (List Char)) : (trimLines ls).Sublist ls := by
  rw [← List.reverse_sublist, trimLines, List.reverse_reverse]
  exact (List.dropWhile_sublist _).trans (List.reverse_sublist.mpr (List.dropWhile_sublist _))

theorem head?_trimLines (ls : List (List Char)) :
    ∀ line ∈ (trimLines ls).head?, allBlank line = false := by
  intro line h
  have hprefix : trimLines ls <+: ls.dropWhile allBlank := List.rdropWhile_prefix allBlank _
  have hhead := List.head?_dropWhile_not allBlank ls
  rw [mem_head?_of_beginning hprefix h] at hhead
  exact hhead

theorem getLast?_trimLines (ls : List (List Char)) :
    ∀ line ∈ (trimLines ls).getLast?, allBlank line = false := by
  intro line h
  rw [trimLines, List.getLast?_reverse] at h
  have := List.head?_dropWhile_not allBlank (ls.dropWhile allBlank).reverse
  rw [h] at this
  exact this

theorem bodyLines_of_kept {body : List (List Char)} (h : ∀ line ∈ body, Kept line) :
    bodyText body = "" ∨ BodyLines ((bodyText body).toList.splitOn '\n') := by
  have hkept : ∀ line ∈ trimLines body.reverse, Kept line := fun line hm =>
    h line (List.mem_reverse.mp ((trimLines_sublist _).subset hm))
  by_cases hne : trimLines body.reverse = []
  · exact .inl (by rw [bodyText, hne]; rfl)
  · right
    rw [bodyText, String.toList_ofList, splitOn_joinLines (fun line hm => (hkept line hm).oneLine) hne]
    exact ⟨head?_trimLines _, getLast?_trimLines _, fun line hm => (hkept line hm).fence,
      fun line hm => (hkept line hm).comment⟩

theorem wellFormed_of_toPrompt {rules : Rules} {header : Header} (hs : header.Sound)
    {body : List (List Char)} (hb : ∀ line ∈ body, Kept line) {prompt : Prompt}
    (h : header.toPrompt rules body = .ok prompt) :
    WellFormed rules prompt ∧ prompt.sourceFile = none := by
  rw [Header.toPrompt] at h
  cases hname : header.name with
  | none =>
    rw [hname] at h
    simp only at h
    split at h
    · cases h
    · next hrules =>
      obtain rfl := Except.ok.inj h
      refine ⟨⟨fun _ => by simpa using hrules, fun hne => absurd rfl hne, hs.model, hs.extract,
        hs.options, bodyLines_of_kept hb⟩, rfl⟩
  | some name =>
    rw [hname] at h
    obtain rfl := Except.ok.inj h
    have htext := hs.name name hname
    refine ⟨⟨fun hempty => ?_, fun _ => htext, hs.model, hs.extract, hs.options,
      bodyLines_of_kept hb⟩, rfl⟩
    exact absurd (String.toList_eq_nil_iff.mpr hempty) htext.nonempty

/-! ### Readings -/

/-- What one line does to a reading that it does not end. -/
inductive Moves (rules : Rules) (number : Nat) (line : List Char) : Reading → Reading → Prop where
  | ignored (h : isFence line = false) : Moves rules number line ⟨.preamble, ps⟩ ⟨.preamble, ps⟩
  | opened (h : isFence line = true) :
      Moves rules number line ⟨.preamble, ps⟩ ⟨.header number {}, ps⟩
  | said (h : isFence line = false) (hr : header.read (trim line) = .ok next) :
      Moves rules number line ⟨.header n header, ps⟩ ⟨.header n next, ps⟩
  | closed (h : isFence line = true) :
      Moves rules number line ⟨.header n header, ps⟩ ⟨.body n header [], ps⟩
  | remarked (h : isFence line = false) (hc : isComment (trim line) = true) :
      Moves rules number line ⟨.body n header body, ps⟩ ⟨.body n header body, ps⟩
  | kept (h : isFence line = false) (hc : isComment (trim line) = false) :
      Moves rules number line ⟨.body n header body, ps⟩ ⟨.body n header (line :: body), ps⟩
  | finished (h : isFence line = true) (hp : header.toPrompt rules body = .ok prompt) :
      Moves rules number line ⟨.body n header body, ps⟩ ⟨.header number {}, prompt :: ps⟩

theorem ok_of_atLine {line : Nat} {result : Except Fault α} {value : α}
    (h : atLine line result = .ok value) : result = .ok value := by
  cases result with
  | ok v => exact congrArg Except.ok (Except.ok.inj h)
  | error fault => cases h

/-- **Everything that a line can do to a reading.** -/
theorem moves_of_step {rules : Rules} {number : Nat} {line : List Char} {reading next : Reading}
    (h : reading.step rules number line = .ok next) : Moves rules number line reading next := by
  obtain ⟨place, ps⟩ := reading
  cases place with
  | preamble =>
    obtain rfl := Except.ok.inj h
    cases hf : isFence line with
    | true => exact .opened hf
    | false => exact .ignored hf
  | header n header =>
    rw [Reading.step] at h
    simp only at h
    split at h
    · next hf =>
      obtain rfl := Except.ok.inj h
      exact .closed hf
    · next hf =>
      cases hr : atLine number (header.read (trim line)) with
      | error error =>
        rw [hr] at h
        cases h
      | ok header' =>
        rw [hr] at h
        obtain rfl := Except.ok.inj h
        exact .said (by simpa using hf) (ok_of_atLine hr)
  | body n header body =>
    rw [Reading.step] at h
    simp only at h
    split at h
    · next hf =>
      cases hp : atLine n (header.toPrompt rules body) with
      | error error =>
        rw [hp] at h
        cases h
      | ok prompt =>
        rw [hp] at h
        obtain rfl := Except.ok.inj h
        exact .finished hf (ok_of_atLine hp)
    · next hf =>
      split at h
      · next hc =>
        obtain rfl := Except.ok.inj h
        exact .remarked (by simpa using hf) hc
      · next hc =>
        obtain rfl := Except.ok.inj h
        exact .kept (by simpa using hf) (by simpa using hc)

/-- A place that only well formed prompts come from. -/
def Place.Sound : Place → Prop
  | .preamble => True
  | .header _ said => said.Sound
  | .body _ said lines => said.Sound ∧ ∀ line ∈ lines, Kept line

/-- A reading in which everything read so far is well formed. -/
structure Reading.Sound (rules : Rules) (reading : Reading) : Prop where
  place : reading.place.Sound
  prompts : ∀ p ∈ reading.prompts, WellFormed rules p ∧ p.sourceFile = none

theorem Moves.sound {rules : Rules} {number : Nat} {line : List Char} (hn : '\n' ∉ line)
    {reading next : Reading} (h : Moves rules number line reading next)
    (hs : reading.Sound rules) : next.Sound rules := by
  cases h with
  | ignored _ => exact hs
  | opened _ => exact ⟨Header.sound_empty, hs.prompts⟩
  | said _ hr => exact ⟨Header.Sound.read hs.place hn hr, hs.prompts⟩
  | closed _ => exact ⟨⟨hs.place, by simp⟩, hs.prompts⟩
  | remarked _ _ => exact hs
  | kept hf hc =>
    refine ⟨⟨hs.place.1, fun l hl => ?_⟩, hs.prompts⟩
    rcases List.mem_cons.mp hl with rfl | hl
    · exact ⟨hn, hf, hc⟩
    · exact hs.place.2 l hl
  | finished _ hp =>
    refine ⟨Header.sound_empty, fun p hm => ?_⟩
    rcases List.mem_cons.mp hm with rfl | hm
    · exact wellFormed_of_toPrompt hs.place.1 hs.place.2 hp
    · exact hs.prompts p hm

/-- How many fences a reading has seen. -/
def Reading.seen (reading : Reading) : Nat :=
  2 * reading.prompts.length +
    match reading.place with
    | .preamble => 0
    | .header _ _ => 1
    | .body _ _ _ => 2

theorem Moves.seen {rules : Rules} {number : Nat} {line : List Char} {reading next : Reading}
    (h : Moves rules number line reading next) :
    next.seen = reading.seen + if isFence line = true then 1 else 0 := by
  cases h <;> simp [Reading.seen, *]
  omega

/-! ### Runs -/

/-- What holds of no line, and of one more line in front, holds of every run. -/
theorem Reading.run_induction {rules : Rules} {motive : List (List Char) → Reading → Reading → Prop}
    (nil : ∀ reading, motive [] reading reading)
    (cons : ∀ number line rest reading next last, Moves rules number line reading next →
      motive rest next last → motive (line :: rest) reading last)
    {ls : List (List Char)} {reading last : Reading} {number : Nat}
    (h : reading.run rules number ls = .ok last) : motive ls reading last := by
  induction ls generalizing reading number with
  | nil =>
    obtain rfl := Except.ok.inj h
    exact nil reading
  | cons line rest ih =>
    rw [run] at h
    cases hstep : reading.step rules number line with
    | error error =>
      rw [hstep] at h
      cases h
    | ok next =>
      rw [hstep] at h
      exact cons number line rest reading next last (moves_of_step hstep) (ih h)

theorem Reading.run_sound {rules : Rules} {ls : List (List Char)} {reading last : Reading}
    {number : Nat} (h : reading.run rules number ls = .ok last) :
    (∀ line ∈ ls, '\n' ∉ line) → reading.Sound rules → last.Sound rules := by
  refine run_induction (motive := fun ls reading last => (∀ line ∈ ls, '\n' ∉ line) →
    reading.Sound rules → last.Sound rules) (fun _ _ hs => hs) ?_ h
  intro number line rest reading next last hmove ih hn hs
  exact ih (fun l hl => hn l (List.mem_cons_of_mem _ hl)) (hmove.sound (hn line List.mem_cons_self) hs)

theorem Reading.run_seen {rules : Rules} {ls : List (List Char)} {reading last : Reading}
    {number : Nat} (h : reading.run rules number ls = .ok last) :
    last.seen = reading.seen + ls.countP isFence := by
  refine run_induction (motive := fun ls reading last =>
    last.seen = reading.seen + ls.countP isFence) (fun _ => rfl) ?_ h
  intro number line rest reading next last hmove ih
  rw [ih, hmove.seen, List.countP_cons]
  omega

/-- What a reading gives at its end: its prompts, and the one whose body it is in. -/
theorem Reading.finish_cases {rules : Rules} {reading : Reading} {prompts : List Prompt}
    (h : reading.finish rules = .ok prompts) :
    (reading.place = .preamble ∧ prompts = reading.prompts.reverse) ∨
      ∃ n header body prompt, reading.place = .body n header body ∧
        header.toPrompt rules body = .ok prompt ∧ prompts = (prompt :: reading.prompts).reverse := by
  obtain ⟨place, before⟩ := reading
  cases place with
  | preamble => exact .inl ⟨rfl, (Except.ok.inj h).symm⟩
  | header n header => cases h
  | body n header body =>
    rw [finish] at h
    cases hp : atLine n (header.toPrompt rules body) with
    | error error =>
      simp only [hp] at h
      cases h
    | ok prompt =>
      simp only [hp] at h
      exact .inr ⟨n, header, body, prompt, rfl, ok_of_atLine hp, (Except.ok.inj h).symm⟩

theorem Reading.Sound.finish {rules : Rules} {reading : Reading} (hs : reading.Sound rules)
    {prompts : List Prompt} (h : reading.finish rules = .ok prompts) :
    ∀ p ∈ prompts, WellFormed rules p ∧ p.sourceFile = none := by
  rcases Reading.finish_cases h with ⟨-, rfl⟩ | ⟨n, header, body, prompt, hplace, hp, rfl⟩
  · exact fun p hm => hs.prompts p (List.mem_reverse.mp hm)
  · intro p hm
    have hbody := hs.place
    rw [hplace] at hbody
    rcases List.mem_cons.mp (List.mem_reverse.mp hm) with rfl | hm
    · exact wellFormed_of_toPrompt hbody.1 hbody.2 hp
    · exact hs.prompts p hm

theorem Reading.seen_of_finish {rules : Rules} {reading : Reading} {prompts : List Prompt}
    (h : reading.finish rules = .ok prompts) : reading.seen = 2 * prompts.length := by
  rcases Reading.finish_cases h with ⟨hplace, rfl⟩ | ⟨n, header, body, prompt, hplace, -, rfl⟩
  · simp [seen, hplace]
  · simp [seen, hplace]
    omega

/-- A text that is accepted was read to its end. -/
theorem run_of_parseLines {rules : Rules} {ls : List (List Char)} {prompts : List Prompt}
    (h : parseLines rules ls = .ok prompts) :
    ∃ last, Reading.run rules {} 1 ls = .ok last ∧ last.finish rules = .ok prompts := by
  rw [parseLines] at h
  cases hrun : Reading.run rules {} 1 ls with
  | error error =>
    rw [hrun] at h
    cases h
  | ok last =>
    rw [hrun] at h
    exact ⟨last, rfl, h⟩

/-- **Every accepted prompt is well formed.** -/
theorem wellFormed_of_parseLines {rules : Rules} {ls : List (List Char)} {prompts : List Prompt}
    (hn : ∀ line ∈ ls, '\n' ∉ line) (h : parseLines rules ls = .ok prompts) :
    ∀ p ∈ prompts, WellFormed rules p ∧ p.sourceFile = none := by
  obtain ⟨last, hrun, hfinish⟩ := run_of_parseLines h
  have hstart : Reading.Sound rules {} := ⟨trivial, by simp⟩
  exact (Reading.run_sound hrun hn hstart).finish hfinish

/-- **Every accepted prompt takes two fences.** -/
theorem countP_isFence_of_parseLines {rules : Rules} {ls : List (List Char)}
    {prompts : List Prompt} (h : parseLines rules ls = .ok prompts) :
    ls.countP isFence = 2 * prompts.length := by
  obtain ⟨last, hrun, hfinish⟩ := run_of_parseLines h
  have hseen := Reading.run_seen hrun
  rw [Reading.seen_of_finish hfinish] at hseen
  simpa [Reading.seen] using hseen.symm

end Promptbook.Template
