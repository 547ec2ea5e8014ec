import Promptbook.Proofs.Template.Segments

/-! The lines of a header, and what they say.

A header line is blank, a comment, or an entry: a key and a value on the two sides of the
first colon. The values of `extract` and `paste` have to make sense (`HeaderLine`). A header
can be read if all its lines are such lines (`exists_readAll`), and it then says of each key
what the last entry with this key says (`Header.Holds`): one more entry replaces what its own
key had, and leaves every other key alone (`field_set`). -/
namespace Promptbook.Template
open Text

/-! ### Entries -/

/-- A line that gives a value to a key. -/
structure Entry (line key value : List Char) : Prop where
  plain : ¬Remark line
  split : ∃ before after, trim line = before ++ ':' :: after ∧ ':' ∉ before ∧
    key = trim before ∧ value = trim after
  key_ne_nil : key ≠ []
  value_ne_nil : value ≠ []

theorem pair?_append_cons {before after : List Char} (h : ':' ∉ before) (hkey : trim before ≠ [])
    (hvalue : trim after ≠ []) :
    Header.pair? (before ++ ':' :: after) = some (trim before, trim after) := by
  have hspan : (before ++ ':' :: after).span (· != ':') = (before, ':' :: after) := by
    rw [List.span_eq_takeWhile_dropWhile, takeWhile_append_cons h, dropWhile_append_cons h]
  simp only [Header.pair?, hspan, hkey, hvalue, or_self, if_false]

theorem entry_iff {line key value : List Char} :
    Entry line key value ↔ ¬Remark line ∧ Header.pair? (trim line) = some (key, value) := by
  constructor
  · intro h
    obtain ⟨hplain, ⟨before, after, hline, hcolon, rfl, rfl⟩, hkey, hvalue⟩ := h
    exact ⟨hplain, by rw [hline, pair?_append_cons hcolon hkey hvalue]⟩
  · intro h
    obtain ⟨before, after, hline, hcolon, hkey, hvalue, hne, hne'⟩ := pair?_eq_some h.2
    exact ⟨h.1, ⟨before, after, hline, hcolon, hkey, hvalue⟩, hne, hne'⟩

/-- A line is an entry in one way only. -/
theorem Entry.unique {line key value key' value' : List Char} (h : Entry line key value)
    (h' : Entry line key' value') : key' = key ∧ value' = value := by
  have hpair := (entry_iff.mp h').2
  rw [(entry_iff.mp h).2] at hpair
  obtain ⟨rfl, rfl⟩ := Prod.mk.inj (Option.some.inj hpair)
  exact ⟨rfl, rfl⟩

/-- A line that a header can have. -/
inductive HeaderLine (line : List Char) : Prop where
  | blank (h : trim line = [])
  | remark (h : Remark line)
  | entry (h : Entry line key value)
      (extract : key = "extract".toList → Pattern.accepts (unescape value) = true)
      (paste : key = "paste".toList → ∃ mode : PasteMode, value = mode.text.toList)

/-! ### Reading a line -/

theorem ofText?_eq_some_iff {text : String} {mode : PasteMode} :
    PasteMode.ofText? text = some mode ↔ text = mode.text := by
  constructor
  · intro h
    unfold PasteMode.ofText? at h
    split_ifs at h <;> cases h <;> assumption
  · intro h
    rw [h, PasteMode.ofText?_text]

/-- What a key and its value do to a header. -/
inductive Header.Sets (header : Header) : List Char → List Char → Header → Prop where
  | name (value : List Char) :
      Sets header "name".toList value { header with name := some (String.ofList value) }
  | model (value : List Char) :
      Sets header "model".toList value { header with model := some (String.ofList value) }
  | extract (h : Pattern.accepts (unescape value) = true) :
      Sets header "extract".toList value
        { header with extract := some (String.ofList (unescape value)) }
  | paste (mode : PasteMode) :
      Sets header "paste".toList mode.text.toList { header with paste := some mode }
  | option (value : List Char) (hname : key ≠ "name".toList) (hmodel : key ≠ "model".toList)
      (hextract : key ≠ "extract".toList) (hpaste : key ≠ "paste".toList) :
      Sets header key value
        { header with options := header.options.insert (String.ofList key) (String.ofList value) }

theorem sets_of_set {header next : Header} {key value : List Char}
    (h : header.set key value = .ok next) : header.Sets key value next := by
  unfold Header.set at h
  split at h
  · next hname =>
    obtain rfl := Except.ok.inj h
    exact hname ▸ .name value
  split at h
  · next hmodel =>
    obtain rfl := Except.ok.inj h
    exact hmodel ▸ .model value
  split at h
  · next hextract =>
    simp only at h
    split at h
    · next haccepts =>
      obtain rfl := Except.ok.inj h
      exact hextract ▸ .extract haccepts
    · cases h
  split at h
  · next hpaste =>
    split at h
    · next mode hof =>
      obtain rfl := Except.ok.inj h
      have hvalue : value = mode.text.toList := by
        rw [← ofText?_eq_some_iff.mp hof, String.toList_ofList]
      exact hpaste ▸ hvalue ▸ .paste mode
    · cases h
  next hname hmodel hextract hpaste =>
    obtain rfl := Except.ok.inj h
    exact .option value hname hmodel hextract hpaste

theorem set_of_sets {header next : Header} {key value : List Char} (h : header.Sets key value next) :
    header.set key value = .ok next := by
  cases h with
  | name => rw [Header.set, if_pos rfl]
  | model => rw [Header.set, if_neg (by decide +kernel), if_pos rfl]
  | extract h =>
    rw [Header.set, if_neg (by decide +kernel), if_neg (by decide +kernel), if_pos rfl]
    exact if_pos h
  | paste mode => exact header.set_paste mode
  | option value hname hmodel hextract hpaste =>
    rw [Header.set, if_neg hname, if_neg hmodel, if_neg hextract, if_neg hpaste]

/-- A value is refused only by the two keys that look at it. -/
theorem exists_set (header : Header) {key value : List Char} :
    (∃ next, header.set key value = .ok next) ↔
      (key = "extract".toList → Pattern.accepts (unescape value) = true) ∧
      (key = "paste".toList → ∃ mode : PasteMode, value = mode.text.toList) := by
  constructor
  · intro h
    obtain ⟨next, hnext⟩ := h
    cases sets_of_set hnext with
    | name => exact ⟨fun e => absurd e (by decide +kernel), fun e => absurd e (by decide +kernel)⟩
    | model => exact ⟨fun e => absurd e (by decide +kernel), fun e => absurd e (by decide +kernel)⟩
    | extract h => exact ⟨fun _ => h, fun e => absurd e (by decide +kernel)⟩
    | paste mode => exact ⟨fun e => absurd e (by decide +kernel), fun _ => ⟨mode, rfl⟩⟩
    | option _ _ _ hextract hpaste => exact ⟨fun e => absurd e hextract, fun e => absurd e hpaste⟩
  · intro h
    obtain ⟨haccepts, hmode⟩ := h
    by_cases hname : key = "name".toList
    · subst hname
      exact ⟨_, set_of_sets (.name value)⟩
    by_cases hmodel : key = "model".toList
    · subst hmodel
      exact ⟨_, set_of_sets (.model value)⟩
    by_cases hextract : key = "extract".toList
    · subst hextract
      exact ⟨_, set_of_sets (.extract (haccepts rfl))⟩
    by_cases hpaste : key = "paste".toList
    · subst hpaste
      obtain ⟨mode, rfl⟩ := hmode rfl
      exact ⟨_, set_of_sets (.paste mode)⟩
    · exact ⟨_, set_of_sets (.option value hname hmodel hextract hpaste)⟩

theorem read_of_skipped {header : Header} {line : List Char} (h : trim line = [] ∨ Remark line) :
    header.read (trim line) = .ok header := by
  rw [Header.read, if_pos]
  rwa [isComment_trim_iff]

theorem read_of_entry {header : Header} {line key value : List Char} (h : Entry line key value) :
    header.read (trim line) = header.set key value := by
  obtain ⟨before, after, hline, -⟩ := h.split
  have hne : trim line ≠ [] := by simp [hline]
  rw [Header.read, if_neg, (entry_iff.mp h).2]
  rw [isComment_trim_iff]
  exact not_or.mpr ⟨hne, h.plain⟩

/-- Whatever can be read is skipped, or is an entry. -/
theorem skipped_or_entry_of_read {header next : Header} {line : List Char}
    (h : header.read (trim line) = .ok next) :
    (trim line = [] ∨ Remark line) ∨ ∃ key value, Entry line key value := by
  rw [Header.read] at h
  split at h
  · next hskip =>
    rw [isComment_trim_iff] at hskip
    exact .inl hskip
  · next hskip =>
    rw [isComment_trim_iff, not_or] at hskip
    cases hpair : Header.pair? (trim line) with
    | none =>
      rw [hpair] at h
      cases h
    | some pair => exact .inr ⟨pair.1, pair.2, entry_iff.mpr ⟨hskip.2, hpair⟩⟩

/-- **The lines that can be read are the lines that a header can have.** -/
theorem exists_read (header : Header) {line : List Char} :
    (∃ next, header.read (trim line) = .ok next) ↔ HeaderLine line := by
  constructor
  · intro h
    obtain ⟨next, hnext⟩ := h
    rcases skipped_or_entry_of_read hnext with (hblank | hremark) | ⟨key, value, hentry⟩
    · exact .blank hblank
    · exact .remark hremark
    · rw [read_of_entry hentry] at hnext
      obtain ⟨hextract, hpaste⟩ := (exists_set header).mp ⟨next, hnext⟩
      exact .entry hentry hextract hpaste
  · intro h
    cases h with
    | blank h => exact ⟨header, read_of_skipped (.inl h)⟩
    | remark h => exact ⟨header, read_of_skipped (.inr h)⟩
    | entry hentry hextract hpaste =>
      obtain ⟨next, hnext⟩ := (exists_set header).mpr ⟨hextract, hpaste⟩
      exact ⟨next, by rw [read_of_entry hentry, hnext]⟩

theorem exists_readAll (header : Header) {ls : List (List Char)} :
    (∃ next, header.readAll ls = .ok next) ↔ ∀ line ∈ ls, HeaderLine line := by
  induction ls generalizing header with
  | nil => simp [Header.readAll]
  | cons line rest ih =>
    rw [List.forall_mem_cons, ← exists_read header, Header.readAll]
    cases header.read (trim line) with
    | error fault => simp
    | ok next => simp [ih]

/-! ### What a header says -/

/-- What a header says of a key, as a text. -/
def Header.field (header : Header) (key : List Char) : Option String :=
  if key = "name".toList then header.name
  else if key = "model".toList then header.model
  else if key = "extract".toList then header.extract
  else if key = "paste".toList then header.paste.map PasteMode.text
  else header.options.get? (String.ofList key)

/-- A value as it is kept: the pattern of `extract` is kept without its escapes. -/
def keptAs (key value : List Char) : String :=
  if key = "extract".toList then String.ofList (unescape value) else String.ofList value

section
variable (header : Header)

theorem field_name : header.field "name".toList = header.name := if_pos rfl

theorem field_model : header.field "model".toList = header.model := by
  rw [Header.field, if_neg (by decide +kernel), if_pos rfl]

theorem field_extract : header.field "extract".toList = header.extract := by
  rw [Header.field, if_neg (by decide +kernel), if_neg (by decide +kernel), if_pos rfl]

theorem field_paste : header.field "paste".toList = header.paste.map PasteMode.text := by
  rw [Header.field, if_neg (by decide +kernel), if_neg (by decide +kernel),
    if_neg (by decide +kernel), if_pos rfl]

theorem field_option {key : List Char} (hname : key ≠ "name".toList) (hmodel : key ≠ "model".toList)
    (hextract : key ≠ "extract".toList) (hpaste : key ≠ "paste".toList) :
    header.field key = header.options.get? (String.ofList key) := by
  rw [Header.field, if_neg hname, if_neg hmodel, if_neg hextract, if_neg hpaste]

end

theorem keptAs_extract :
    keptAs "extract".toList = fun value => String.ofList (unescape value) :=
  funext fun _ => if_pos rfl

theorem keptAs_of_ne {key : List Char} (h : key ≠ "extract".toList) :
    keptAs key = String.ofList := funext fun _ => if_neg h

/-- **A value that is set is what its key says from then on, and all that changes.** -/
theorem field_set {header next : Header} {key value : List Char}
    (h : header.set key value = .ok next) (k : List Char) :
    next.field k = if k = key then some (keptAs key value) else header.field k := by
  have hsets := sets_of_set h
  split
  · next hk =>
    subst hk
    cases hsets with
    | name => rw [field_name, keptAs_of_ne (by decide +kernel)]
    | model => rw [field_model, keptAs_of_ne (by decide +kernel)]
    | extract => rw [field_extract, keptAs_extract]
    | paste mode => rw [field_paste, keptAs_of_ne (by decide +kernel), String.ofList_toList]; rfl
    | option _ hname hmodel hextract hpaste =>
      rw [field_option _ hname hmodel hextract hpaste, keptAs_of_ne hextract, Options.get?_insert,
        if_pos rfl]
  · next hk =>
    cases hsets with
    | name => simp only [Header.field, if_neg hk]
    | model => simp only [Header.field, if_neg hk]
    | extract => simp only [Header.field, if_neg hk]
    | paste mode => simp only [Header.field, if_neg hk]
    | option =>
      have hne : String.ofList k ≠ String.ofList key := fun e => by
        rw [← String.toList_inj, String.toList_ofList, String.toList_ofList] at e
        exact hk e
      simp only [Header.field, Options.get?_insert, if_neg hne]

/-- The value of the last line with this key, if any line has it. -/
def LastValue (header : List (List Char)) (key : List Char) : Option (List Char) → Prop
  | none => ∀ line ∈ header, ∀ value, ¬Entry line key value
  | some value => ∃ before line after, header = before ++ line :: after ∧ Entry line key value ∧
      ∀ later ∈ after, ∀ value, ¬Entry later key value

theorem LastValue.concat_entry (ls : List (List Char)) {line key value : List Char}
    (h : Entry line key value) : LastValue (ls ++ [line]) key (some value) :=
  ⟨ls, line, [], rfl, h, by simp⟩

theorem LastValue.concat_other {ls : List (List Char)} {key : List Char} {value? : Option (List Char)}
    (h : LastValue ls key value?) {line : List Char} (ho : ∀ value, ¬Entry line key value) :
    LastValue (ls ++ [line]) key value? := by
  cases value? with
  | none =>
    intro l hl
    rcases List.mem_append.mp hl with hl | hl
    · exact h l hl
    · obtain rfl := List.mem_singleton.mp hl
      exact ho
  | some value =>
    obtain ⟨before, last, after, rfl, hentry, hafter⟩ := h
    refine ⟨before, last, after ++ [line], by simp, hentry, fun l hl => ?_⟩
    rcases List.mem_append.mp hl with hl | hl
    · exact hafter l hl
    · obtain rfl := List.mem_singleton.mp hl
      exact ho

/-- The last entry with a key is no further to the front than any other. -/
theorem prefix_of_last {before after before' after' : List (List Char)} {line line' : List Char}
    {key value : List Char} (h : before ++ line :: after = before' ++ line' :: after')
    (hentry : Entry line' key value) (hlast : ∀ later ∈ after, ∀ value, ¬Entry later key value) :
    before'.length ≤ before.length := by
  rcases List.append_eq_append_iff.mp h with ⟨more, rfl, hmore⟩ | ⟨more, rfl, -⟩
  · cases more with
    | nil => simp
    | cons first more =>
      obtain ⟨-, rfl⟩ := List.cons.inj hmore
      exact absurd hentry (hlast line' (by simp) value)
  · simp

/-- Lines have one last value of a key, or none. -/
theorem LastValue.unique {ls : List (List Char)} {key : List Char}
    {value? value?' : Option (List Char)} (h : LastValue ls key value?)
    (h' : LastValue ls key value?') : value?' = value? := by
  cases value? with
  | none =>
    cases value?' with
    | none => rfl
    | some value' =>
      obtain ⟨before', line', after', rfl, hentry', -⟩ := h'
      exact absurd hentry' (h line' (by simp) value')
  | some value =>
    obtain ⟨before, line, after, rfl, hentry, hlast⟩ := h
    cases value?' with
    | none => exact absurd hentry (h' line (by simp) value)
    | some value' =>
      obtain ⟨before', line', after', heq, hentry', hlast'⟩ := h'
      have hlength := Nat.le_antisymm (prefix_of_last heq.symm hentry hlast')
        (prefix_of_last heq hentry' hlast)
      obtain ⟨-, hrest⟩ := List.append_inj heq hlength
      obtain ⟨rfl, -⟩ := List.cons.inj hrest
      rw [(hentry.unique hentry').2]

/-- A header that says what these lines say, and has no options beside. -/
structure Header.Holds (header : Header) (ls : List (List Char)) : Prop where
  field : ∀ key, ∃ value?, LastValue ls key value? ∧ header.field key = value?.map (keptAs key)
  free : ∀ key, Prompt.isReservedKey key = true → header.options.get? key = none

theorem Header.holds_empty : Header.Holds {} [] where
  field key := by
    have hnone : LastValue [] key none := fun _ hm => nomatch hm
    refine ⟨none, hnone, ?_⟩
    unfold Header.field
    split_ifs <;> rfl
  free key _ := rfl

/-- An option is set under its own key, which is none of the reserved ones. -/
theorem get?_set_of_reserved {header next : Header} {key value : List Char}
    (h : header.set key value = .ok next) {k : String} (hk : Prompt.isReservedKey k = true) :
    next.options.get? k = header.options.get? k := by
  cases sets_of_set h with
  | name => rfl
  | model => rfl
  | extract => rfl
  | paste mode => rfl
  | option _ hname hmodel hextract hpaste =>
    rw [Options.get?_insert, if_neg]
    rintro rfl
    rw [Prompt.isReservedKey_iff] at hk
    simp only [← String.toList_inj, String.toList_ofList] at hk
    rcases hk with hk | hk | hk | hk <;> contradiction

/-- **A header goes on to say what its lines say with one more line.** -/
theorem Header.Holds.read {header next : Header} {ls : List (List Char)} (hs : header.Holds ls)
    {line : List Char} (h : header.read (trim line) = .ok next) : next.Holds (ls ++ [line]) := by
  rcases skipped_or_entry_of_read h with hskip | ⟨key, value, hentry⟩
  · rw [read_of_skipped hskip] at h
    obtain rfl := Except.ok.inj h
    have hno (key value : List Char) : ¬Entry line key value := fun hentry => by
      rcases hskip with hblank | hremark
      · obtain ⟨before, after, hline, -⟩ := hentry.split
        simp [hblank] at hline
      · exact hentry.plain hremark
    refine ⟨fun key => ?_, hs.free⟩
    obtain ⟨value?, hlast, hfield⟩ := hs.field key
    exact ⟨value?, hlast.concat_other (hno key), hfield⟩
  · rw [read_of_entry hentry] at h
    refine ⟨fun k => ?_, fun k hk => by rw [get?_set_of_reserved h hk, hs.free k hk]⟩
    rw [field_set h]
    -- The new line is the last one with its own key, and has no other.
    by_cases hk : k = key
    · subst hk
      exact ⟨some value, .concat_entry ls hentry, by rw [if_pos rfl]; rfl⟩
    · obtain ⟨value?, hlast, hfield⟩ := hs.field k
      have hno (value' : List Char) : ¬Entry line k value' := fun h' => hk (hentry.unique h').1
      exact ⟨value?, hlast.concat_other hno, by rw [if_neg hk, hfield]⟩

theorem Header.Holds.readAll {header last : Header} {before ls : List (List Char)}
    (hs : header.Holds before) (h : header.readAll ls = .ok last) : last.Holds (before ++ ls) := by
  induction ls generalizing header before with
  | nil =>
    obtain rfl := Except.ok.inj h
    rwa [List.append_nil]
  | cons line rest ih =>
    rw [Header.readAll] at h
    cases hread : header.read (trim line) with
    | error fault =>
      rw [hread] at h
      cases h
    | ok next =>
      rw [hread] at h
      have hall := ih (hs.read hread) h
      rwa [List.append_assoc] at hall

/-- **A header says of each key what the last of its lines with this key says.** -/
theorem holds_of_readAll {said : Header} {ls : List (List Char)}
    (h : Header.readAll {} ls = .ok said) : said.Holds ls :=
  Header.holds_empty.readAll h

end Promptbook.Template
