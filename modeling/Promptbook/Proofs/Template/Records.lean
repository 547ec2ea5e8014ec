import Promptbook.Template.Writer
import Promptbook.Proofs.Template.HeaderLine
import Promptbook.Proofs.Text.Escape
import Promptbook.Proofs.Text.Lines

/-! Records, line by line.

A prompt is well formed if its header fields can stand on header lines, its pattern is
accepted, and none of its body lines is blank at an end of the body, a fence or a
comment. A written record is a list of lines (`record_eq_unlines`), and reading the lines
of well formed prompts gives these prompts (`parseLines_records`), whatever was read
before. Carriage returns at the ends of body lines do no harm here: they are lost only
when the lines are put into a text and cut again. -/
namespace Promptbook.Template
open Text

/-! ### Well formed prompts -/

/-- The key and the value of an option that a header line can hold. -/
structure OptionText (key value : String) : Prop where
  pairable : Pairable key.toList value.toList
  free : Prompt.isReservedKey key = false

/-- A pattern that is accepted, and that a header line can hold once it is escaped. -/
structure PatternText (pattern : String) : Prop where
  nonempty : pattern ≠ ""
  accepted : Pattern.accepts pattern.toList = true
  trimmed : trim (escape pattern.toList) = escape pattern.toList

/-- Lines of a body that are kept as they are. -/
structure BodyLines (ls : List (List Char)) : Prop where
  first : ∀ line ∈ ls.head?, allBlank line = false
  last : ∀ line ∈ ls.getLast?, allBlank line = false
  fence : ∀ line ∈ ls, isFence line = false
  comment : ∀ line ∈ ls, isComment (trim line) = false

/-- A prompt of which every field can be written. -/
structure WellFormed (rules : Rules) (prompt : Prompt) : Prop where
  named : prompt.name = "" → rules.requireName = false
  name : prompt.name ≠ "" → HeaderText prompt.name.toList
  model : ∀ model, prompt.model = some model → HeaderText model.toList
  extract : ∀ pattern, prompt.extract = some pattern → PatternText pattern
  options : ∀ p ∈ prompt.options.toList, OptionText p.1 p.2
  body : prompt.body = "" ∨ BodyLines (prompt.body.toList.splitOn '\n')

/-! ### Records as lines -/

def fence : List Char := ['-', '-', '-']

/-- The lines of a body, none for an empty one. -/
def bodyLines (prompt : Prompt) : List (List Char) :=
  if prompt.body = "" then [] else prompt.body.toList.splitOn '\n'

def headerLines (prompt : Prompt) : List (List Char) :=
  (headerPairs prompt).map fun p => pairLine p.1.toList p.2.toList

/-- The lines of a written record. -/
def recordLines (prompt : Prompt) : List (List Char) :=
  fence :: headerLines prompt ++ fence :: bodyLines prompt

theorem unlines_append (a b : List (List Char)) : unlines (a ++ b) = unlines a ++ unlines b := by
  simp [unlines]

theorem unlines_bodyLines (prompt : Prompt) :
    unlines (bodyLines prompt) = if prompt.body = "" then [] else prompt.body.toList ++ ['\n'] := by
  rw [bodyLines]
  split
  · rfl
  · rw [unlines_eq_joinLines (List.splitOn_ne_nil _ _), joinLines_splitOn]

theorem record_eq_unlines (prompt : Prompt) : record prompt = unlines (recordLines prompt) := by
  have hheader : (headerPairs prompt).flatMap (fun p => headerLine p.1 p.2) =
      unlines (headerLines prompt) := by
    simp [unlines, headerLines, headerLine, pairLine, List.flatMap_map]
  rw [record, hheader, recordLines, unlines_append, unlines_cons, unlines_cons, unlines_bodyLines]
  simp [fenceLine, fence]

theorem toList_writeAll (prompts : List Prompt) :
    (writeAll prompts).toList = unlines (prompts.flatMap recordLines) := by
  induction prompts with
  | nil => rfl
  | cons prompt prompts ih =>
    rw [toList_writeAll_cons, ih, record_eq_unlines, List.flatMap_cons, unlines_append]

/-! ### Reading header lines -/

/-- The header after these pairs. -/
def Header.setAll (header : Header) : List (List Char × List Char) → Except Fault Header
  | [] => .ok header
  | (key, value) :: rest =>
    match header.set key value with
    | .ok next => next.setAll rest
    | .error fault => .error fault

theorem Header.setAll_append {header next : Header} {a : List (List Char × List Char)}
    (h : header.setAll a = .ok next) (b : List (List Char × List Char)) :
    header.setAll (a ++ b) = next.setAll b := by
  induction a generalizing header with
  | nil =>
    cases h
    rfl
  | cons pair rest ih =>
    obtain ⟨key, value⟩ := pair
    rw [List.cons_append, setAll]
    rw [setAll] at h
    cases hset : header.set key value with
    | ok header' =>
      rw [hset] at h
      exact ih h
    | error fault =>
      rw [hset] at h
      cases h

theorem Reading.run_cons {rules : Rules} {reading next : Reading} {number : Nat} {line : List Char}
    (h : reading.step rules number line = .ok next) (rest : List (List Char)) :
    reading.run rules number (line :: rest) = next.run rules (number + 1) rest := by
  rw [run, h]

/-- Lines that are read after others, which could be read. -/
theorem Reading.run_append_of_ok {rules : Rules} {reading next : Reading} {number : Nat}
    {before : List (List Char)} (h : reading.run rules number before = .ok next)
    (rest : List (List Char)) :
    reading.run rules number (before ++ rest) = next.run rules (number + before.length) rest := by
  rw [run_append, h]

theorem run_pairLines (rules : Rules) {pairs : List (List Char × List Char)}
    (hp : ∀ p ∈ pairs, Pairable p.1 p.2) {header next : Header} (h : header.setAll pairs = .ok next)
    (number n : Nat) (prompts : List Prompt) :
    Reading.run rules ⟨.header n header, prompts⟩ number (pairs.map fun p => pairLine p.1 p.2) =
      .ok ⟨.header n next, prompts⟩ := by
  induction pairs generalizing header number with
  | nil =>
    cases h
    rfl
  | cons pair rest ih =>
    obtain ⟨key, value⟩ := pair
    have hpair : Pairable key value := hp _ List.mem_cons_self
    rw [Header.setAll] at h
    cases hset : header.set key value with
    | error fault =>
      rw [hset] at h
      cases h
    | ok header' =>
      rw [hset] at h
      have hstep : Reading.step rules ⟨.header n header, prompts⟩ number (pairLine key value) =
          .ok ⟨.header n header', prompts⟩ := by
        simp only [Reading.step, isFence_pairLine, Bool.false_eq_true, if_false,
          read_pairLine hpair, hset, atLine]
      rw [List.map_cons, Reading.run_cons hstep]
      exact ih (fun p hm => hp p (List.mem_cons_of_mem _ hm)) h (number + 1)

/-! ### The header of a prompt -/

/-- What a header says that was written for this prompt. -/
def headerOf (prompt : Prompt) : Header where
  name := if prompt.name = "" then none else some prompt.name
  model := prompt.model
  extract := prompt.extract
  paste := prompt.paste
  options := prompt.options

theorem pairable_reserved {key : String} (hk : key ∈ Prompt.reservedKeys) {value : List Char}
    (hv : HeaderText value) : Pairable key.toList value := by
  simp only [Prompt.reservedKeys, List.mem_cons, List.not_mem_nil, or_false] at hk
  rcases hk with rfl | rfl | rfl | rfl
  all_goals
    refine ⟨⟨by decide +kernel, by decide +kernel, by decide +kernel⟩, hv, by decide +kernel, ?_⟩
    intro h
    obtain ⟨h, -⟩ := h
    exact absurd h (by decide +kernel)

theorem headerText_paste (mode : PasteMode) : HeaderText mode.text.toList := by
  cases mode <;> exact ⟨by decide +kernel, by decide +kernel, by decide +kernel⟩

theorem PatternText.headerText {pattern : String} (h : PatternText pattern) :
    HeaderText (escape pattern.toList) :=
  ⟨escape_ne_nil fun e => h.nonempty (String.toList_eq_nil_iff.mp e), h.trimmed,
    newline_not_mem_escape _⟩

theorem pairable_headerPairs {rules : Rules} {prompt : Prompt} (h : WellFormed rules prompt) :
    ∀ p ∈ headerPairs prompt, Pairable p.1.toList p.2.toList := by
  intro p hp
  simp only [headerPairs, List.mem_append, List.mem_map, Option.mem_toList] at hp
  rcases hp with (((hp | ⟨model, hm, rfl⟩) | ⟨pattern, hm, rfl⟩) | ⟨mode, hm, rfl⟩) | hp
  · split at hp
    · cases hp
    · next hname =>
      obtain rfl := List.mem_singleton.mp hp
      exact pairable_reserved (by simp [Prompt.reservedKeys]) (h.name hname)
  · exact pairable_reserved (by simp [Prompt.reservedKeys]) (h.model model hm)
  · refine pairable_reserved (by simp [Prompt.reservedKeys]) ?_
    rw [String.toList_ofList]
    exact (h.extract pattern hm).headerText
  · exact pairable_reserved (by simp [Prompt.reservedKeys]) (headerText_paste mode)
  · exact (h.options p hp).pairable

theorem Header.set_name (header : Header) (value : String) :
    header.set "name".toList value.toList = .ok { header with name := some value } := by
  rw [set, if_pos rfl, String.ofList_toList]

theorem Header.set_model (header : Header) (value : String) :
    header.set "model".toList value.toList = .ok { header with model := some value } := by
  rw [set, if_neg (by decide +kernel), if_pos rfl, String.ofList_toList]

theorem Header.set_extract (header : Header) {pattern : String} (h : PatternText pattern) :
    header.set "extract".toList (escape pattern.toList) =
      .ok { header with extract := some pattern } := by
  rw [set, if_neg (by decide +kernel), if_neg (by decide +kernel), if_pos rfl]
  simp only [unescape_escape, h.accepted, if_true, String.ofList_toList]

theorem Header.set_paste (header : Header) (mode : PasteMode) :
    header.set "paste".toList mode.text.toList = .ok { header with paste := some mode } := by
  rw [set, if_neg (by decide +kernel), if_neg (by decide +kernel), if_neg (by decide +kernel),
    if_pos rfl, String.ofList_toList, PasteMode.ofText?_text]

theorem Header.set_free (header : Header) {key : String} (h : Prompt.isReservedKey key = false)
    (value : String) :
    header.set key.toList value.toList =
      .ok { header with options := header.options.insert key value } := by
  have hne (other : String) (ho : other ∈ Prompt.reservedKeys) : key.toList ≠ other.toList := by
    intro e
    rw [String.toList_inj] at e
    subst e
    simp [Prompt.isReservedKey, ho] at h
  rw [set, if_neg (hne _ (by simp [Prompt.reservedKeys])),
    if_neg (hne _ (by simp [Prompt.reservedKeys])), if_neg (hne _ (by simp [Prompt.reservedKeys])),
    if_neg (hne _ (by simp [Prompt.reservedKeys])), String.ofList_toList, String.ofList_toList]

theorem Header.setAll_options {pairs : List (String × String)}
    (h : ∀ p ∈ pairs, Prompt.isReservedKey p.1 = false) (header : Header) :
    header.setAll (pairs.map fun p => (p.1.toList, p.2.toList)) =
      .ok { header with
        options := pairs.foldl (fun options p => options.insert p.1 p.2) header.options } := by
  induction pairs generalizing header with
  | nil => rfl
  | cons p rest ih =>
    rw [List.map_cons, setAll, set_free _ (h p List.mem_cons_self)]
    exact ih (fun q hq => h q (List.mem_cons_of_mem _ hq)) _

/-- A field that is written only if the prompt has it. -/
theorem Header.setAll_toList {header : Header} {value : Option α} (pair : α → String × String)
    (put : Option α → Header) (hnone : put none = header)
    (hsome : ∀ a, value = some a →
      header.set (pair a).1.toList (pair a).2.toList = .ok (put (some a))) :
    header.setAll ((value.toList.map pair).map fun p => (p.1.toList, p.2.toList)) =
      .ok (put value) := by
  cases value with
  | none => exact congrArg Except.ok hnone.symm
  | some a =>
    simp only [Option.toList_some, List.map_cons, List.map_nil, setAll]
    rw [hsome a rfl]

section
variable {header : Header}

theorem Header.setAll_name (hn : { header with name := none } = header) (name : String) :
    header.setAll ((if name = "" then [] else [("name", name)]).map
      fun p => (p.1.toList, p.2.toList)) =
      .ok { header with name := if name = "" then none else some name } := by
  split
  · exact congrArg Except.ok hn.symm
  · simp only [List.map_cons, List.map_nil, setAll, set_name]

theorem Header.setAll_model (hn : { header with model := none } = header) (model : Option String) :
    header.setAll ((model.toList.map ("model", ·)).map fun p => (p.1.toList, p.2.toList)) =
      .ok { header with model := model } :=
  setAll_toList ("model", ·) (fun model => { header with model := model }) hn
    fun model _ => header.set_model model

theorem Header.setAll_extract (hn : { header with extract := none } = header)
    {pattern : Option String} (h : ∀ p, pattern = some p → PatternText p) :
    header.setAll ((pattern.toList.map fun pattern =>
        ("extract", String.ofList (escape pattern.toList))).map fun p => (p.1.toList, p.2.toList)) =
      .ok { header with extract := pattern } := by
  apply setAll_toList (fun pattern => ("extract", String.ofList (escape pattern.toList)))
    (fun pattern => { header with extract := pattern }) hn
  intro pattern hp
  simp only [String.toList_ofList]
  exact header.set_extract (h pattern hp)

theorem Header.setAll_paste (hn : { header with paste := none } = header) (mode : Option PasteMode) :
    header.setAll ((mode.toList.map fun mode => ("paste", mode.text)).map
        fun p => (p.1.toList, p.2.toList)) =
      .ok { header with paste := mode } := by
  apply setAll_toList (fun mode => ("paste", mode.text))
    (fun mode => { header with paste := mode }) hn
  intro mode _
  simp only
  exact header.set_paste mode

end

/-- **The header lines of a prompt are read as its header.** -/
theorem setAll_headerPairs {rules : Rules} {prompt : Prompt} (h : WellFormed rules prompt) :
    ({} : Header).setAll ((headerPairs prompt).map fun p => (p.1.toList, p.2.toList)) =
      .ok (headerOf prompt) := by
  have hoptions : prompt.options.toList.foldl (fun options p => options.insert p.1 p.2)
      Options.empty = prompt.options := prompt.options.ofList_toList
  rw [headerPairs, List.map_append, List.map_append, List.map_append, List.map_append,
    List.append_assoc, List.append_assoc, List.append_assoc,
    Header.setAll_append (Header.setAll_name rfl prompt.name),
    Header.setAll_append (Header.setAll_model rfl prompt.model),
    Header.setAll_append (Header.setAll_extract rfl h.extract),
    Header.setAll_append (Header.setAll_paste rfl prompt.paste),
    Header.setAll_options fun p hp => (h.options p hp).free]
  exact congrArg (fun options => Except.ok { headerOf prompt with options := options }) hoptions

theorem run_headerLines {rules : Rules} {prompt : Prompt} (h : WellFormed rules prompt)
    (number n : Nat) (prompts : List Prompt) :
    Reading.run rules ⟨.header n {}, prompts⟩ number (headerLines prompt) =
      .ok ⟨.header n (headerOf prompt), prompts⟩ := by
  have hlines : headerLines prompt =
      ((headerPairs prompt).map fun p => (p.1.toList, p.2.toList)).map
        fun p => pairLine p.1 p.2 := by
    rw [headerLines, List.map_map]
    rfl
  rw [hlines]
  apply run_pairLines rules _ (setAll_headerPairs h)
  intro p hp
  obtain ⟨q, hq, rfl⟩ := List.mem_map.mp hp
  exact pairable_headerPairs h q hq

/-! ### Bodies -/

/-- Lines that are kept are read into a body one after another. -/
theorem run_bodyLines (rules : Rules) {ls : List (List Char)}
    (hfence : ∀ line ∈ ls, isFence line = false)
    (hcomment : ∀ line ∈ ls, isComment (trim line) = false) (number n : Nat) (header : Header)
    (body : List (List Char)) (prompts : List Prompt) :
    Reading.run rules ⟨.body n header body, prompts⟩ number ls =
      .ok ⟨.body n header (ls.reverse ++ body), prompts⟩ := by
  induction ls generalizing number body with
  | nil => rfl
  | cons line rest ih =>
    have hstep : Reading.step rules ⟨.body n header body, prompts⟩ number line =
        .ok ⟨.body n header (line :: body), prompts⟩ := by
      simp only [Reading.step, hfence line List.mem_cons_self, hcomment line List.mem_cons_self,
        Bool.false_eq_true, if_false]
    rw [Reading.run_cons hstep, ih (fun l hl => hfence l (List.mem_cons_of_mem _ hl))
      (fun l hl => hcomment l (List.mem_cons_of_mem _ hl)), List.reverse_cons, List.append_assoc]
    rfl

/-- Nothing is trimmed off lines that are visible at both ends. -/
theorem trimLines_eq_self {ls : List (List Char)} (hfirst : ∀ line ∈ ls.head?, allBlank line = false)
    (hlast : ∀ line ∈ ls.getLast?, allBlank line = false) : trimLines ls = ls := by
  have hdrop {ls : List (List Char)} (h : ∀ line ∈ ls.head?, allBlank line = false) :
      ls.dropWhile allBlank = ls := by
    cases ls with
    | nil => rfl
    | cons line rest => exact List.dropWhile_cons_of_neg (by simp [h line rfl])
  rw [trimLines, hdrop hfirst, hdrop (by rwa [List.head?_reverse]), List.reverse_reverse]

theorem bodyText_bodyLines {prompt : Prompt}
    (h : prompt.body = "" ∨ BodyLines (prompt.body.toList.splitOn '\n')) :
    bodyText (bodyLines prompt).reverse = prompt.body := by
  rw [bodyText, List.reverse_reverse, bodyLines]
  split
  · next hempty =>
    rw [hempty]
    rfl
  · next hne =>
    obtain ⟨hfirst, hlast, -, -⟩ := h.resolve_left hne
    rw [trimLines_eq_self hfirst hlast, joinLines_splitOn, String.ofList_toList]

/-! ### Reading records -/

/-- A fence ends what could end here, and opens a header. -/
theorem step_fence {rules : Rules} {reading : Reading} {prompts : List Prompt}
    (h : reading.finish rules = .ok prompts) {line : List Char} (hfence : isFence line = true)
    (number : Nat) : reading.step rules number line = .ok ⟨.header number {}, prompts.reverse⟩ := by
  obtain ⟨place, before⟩ := reading
  cases place with
  | preamble =>
    obtain rfl := Except.ok.inj h
    simp [Reading.step, hfence]
  | header n header => cases h
  | body n header body =>
    simp only [Reading.finish] at h
    simp only [Reading.step, hfence, if_true]
    cases hp : atLine n (header.toPrompt rules body) with
    | error error =>
      rw [hp] at h
      cases h
    | ok prompt =>
      rw [hp] at h
      obtain rfl := Except.ok.inj h
      simp

theorem toPrompt_headerOf {rules : Rules} {prompt : Prompt} (h : WellFormed rules prompt)
    (hs : prompt.sourceFile = none) :
    (headerOf prompt).toPrompt rules (bodyLines prompt).reverse = .ok prompt := by
  rw [Header.toPrompt, bodyText_bodyLines h.body]
  obtain ⟨name, body, model, extract, paste, options, sourceFile⟩ := prompt
  by_cases hname : name = ""
  · subst hname
    have hrules := h.named rfl
    subst hs
    simp [headerOf, hrules]
  · subst hs
    simp [headerOf, hname]

/-- What can be read of a body is ready to be a prompt. -/
theorem bodyLines_kept {rules : Rules} {prompt : Prompt} (h : WellFormed rules prompt) :
    (∀ line ∈ bodyLines prompt, isFence line = false) ∧
      ∀ line ∈ bodyLines prompt, isComment (trim line) = false := by
  rw [bodyLines]
  split
  · simp
  · next hne =>
    have hbody := h.body.resolve_left hne
    exact ⟨hbody.fence, hbody.comment⟩

/-- **A record that follows what could end here adds its prompt.** -/
theorem run_recordLines {rules : Rules} {prompt : Prompt} (h : WellFormed rules prompt)
    (hs : prompt.sourceFile = none) {reading : Reading} {prompts : List Prompt}
    (hr : reading.finish rules = .ok prompts) (number : Nat) :
    ∃ next, reading.run rules number (recordLines prompt) = .ok next ∧
      next.finish rules = .ok (prompts ++ [prompt]) := by
  obtain ⟨hfence, hcomment⟩ := bodyLines_kept h
  refine ⟨⟨.body number (headerOf prompt) ((bodyLines prompt).reverse ++ []), prompts.reverse⟩,
    ?_, ?_⟩
  · have hclose (n : Nat) : Reading.step rules ⟨.header number (headerOf prompt), prompts.reverse⟩ n
        fence = .ok ⟨.body number (headerOf prompt) [], prompts.reverse⟩ := rfl
    rw [recordLines, List.cons_append, Reading.run_cons (step_fence hr rfl number),
      Reading.run_append_of_ok (run_headerLines h _ number _), Reading.run_cons (hclose _)]
    exact run_bodyLines rules hfence hcomment _ number _ [] _
  · simp only [Reading.finish, List.append_nil, toPrompt_headerOf h hs, atLine]
    simp

theorem run_records {rules : Rules} {prompts before : List Prompt}
    (h : ∀ p ∈ prompts, WellFormed rules p) (hs : ∀ p ∈ prompts, p.sourceFile = none)
    {reading : Reading} (hr : reading.finish rules = .ok before) (number : Nat) :
    ∃ next, reading.run rules number (prompts.flatMap recordLines) = .ok next ∧
      next.finish rules = .ok (before ++ prompts) := by
  induction prompts generalizing before reading number with
  | nil => exact ⟨reading, rfl, by rw [hr, List.append_nil]⟩
  | cons prompt prompts ih =>
    obtain ⟨next, hnext, hfinish⟩ :=
      run_recordLines (h prompt List.mem_cons_self) (hs prompt List.mem_cons_self) hr number
    obtain ⟨last, hlast, hall⟩ := ih (fun p hp => h p (List.mem_cons_of_mem _ hp))
      (fun p hp => hs p (List.mem_cons_of_mem _ hp)) hfinish (number + (recordLines prompt).length)
    refine ⟨last, ?_, by rw [hall, List.append_assoc]; rfl⟩
    rw [List.flatMap_cons, Reading.run_append_of_ok hnext]
    exact hlast

/-- **The lines of well formed prompts are read as these prompts.** -/
theorem parseLines_records {rules : Rules} {prompts : List Prompt}
    (h : ∀ p ∈ prompts, WellFormed rules p) (hs : ∀ p ∈ prompts, p.sourceFile = none) :
    parseLines rules (prompts.flatMap recordLines) = .ok prompts := by
  obtain ⟨next, hnext, hfinish⟩ := run_records h hs (rfl : Reading.finish rules {} = .ok []) 1
  rw [parseLines, hnext]
  exact hfinish

end Promptbook.Template
