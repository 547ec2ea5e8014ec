import Mathlib.Data.List.DropRight
import Promptbook.Proofs.Template.Entries

/-! The grammar of template texts.

The fences cut a text into segments, and behind the first every two are a header and a body.
A text is accepted if the segments come out even and every header is one (`HeaderSegment`);
what a body says never matters. A header and a body stand for one prompt, field by field
(`Describes`, `Describes.unique`), and an accepted text gives these prompts in order. What
stands before the first fence has no part in it (`parse_grammar`). -/
namespace Promptbook.Template
open Text

/-! ### What is accepted, and what it says -/

/-- The segments of a text. -/
def segmentsOf (text : String) : List (List (List Char)) := segments (lines text.toList)

/-- The lines of a header that is accepted. -/
structure HeaderSegment (rules : Rules) (header : List (List Char)) : Prop where
  lines : ∀ line ∈ header, HeaderLine line
  named : rules.requireName = true → ∃ line ∈ header, ∃ value, Entry line "name".toList value

/-- The text of a body: the lines that are no comments, from the first to the last of them
that is not blank. -/
def BodyText (body : List (List Char)) (text : List Char) : Prop :=
  ∃ before middle after, body.filter (fun line => ¬Remark line) = before ++ middle ++ after ∧
    (∀ line ∈ before ++ after, trim line = []) ∧
    (∀ line ∈ middle.head?, trim line ≠ []) ∧ (∀ line ∈ middle.getLast?, trim line ≠ []) ∧
    text = ['\n'].intercalate middle

/-- The prompt that a header and the body under it stand for. -/
structure Describes (header body : List (List Char)) (prompt : Prompt) : Prop where
  name : ∃ value?, LastValue header "name".toList value? ∧
    prompt.name = String.ofList (value?.getD [])
  model : ∃ value?, LastValue header "model".toList value? ∧
    prompt.model = value?.map String.ofList
  extract : ∃ value?, LastValue header "extract".toList value? ∧
    prompt.extract = value?.map fun value => String.ofList (unescape value)
  paste : ∃ value?, LastValue header "paste".toList value? ∧
    prompt.paste.map PasteMode.text = value?.map String.ofList
  options : ∀ key, Prompt.isReservedKey key = false →
    ∃ value?, LastValue header key.toList value? ∧
      prompt.options.get? key = value?.map String.ofList
  free : ∀ key, Prompt.isReservedKey key = true → prompt.options.get? key = none
  body : BodyText body prompt.body.toList
  sourceFile : prompt.sourceFile = none

/-! ### Bodies -/

/-- Only blank lines are trimmed off a body. -/
theorem exists_eq_append_trimLines (ls : List (List Char)) :
    ∃ before after, ls = before ++ trimLines ls ++ after ∧
      ∀ line ∈ before ++ after, allBlank line = true := by
  refine ⟨ls.takeWhile allBlank, (ls.dropWhile allBlank).rtakeWhile allBlank, ?_, ?_⟩
  · have hend : trimLines ls = (ls.dropWhile allBlank).rdropWhile allBlank := rfl
    rw [hend, List.append_assoc, List.rdropWhile_append_rtakeWhile,
      List.takeWhile_append_dropWhile]
  · intro line hm
    rcases List.mem_append.mp hm with hm | hm
    · exact List.mem_takeWhile_imp hm
    · exact List.mem_rtakeWhile_imp hm

theorem bodyText_shown (body : List (List Char)) :
    BodyText body (bodyText (shown body).reverse).toList := by
  obtain ⟨before, after, hcut, hblank⟩ := exists_eq_append_trimLines (shown body)
  refine ⟨before, trimLines (shown body), after, hcut, fun line hm => ?_, fun line hm => ?_,
    fun line hm => ?_, ?_⟩
  · exact trim_eq_nil_iff.mpr (hblank line hm)
  · rw [Ne, trim_eq_nil_iff, head?_trimLines _ line hm]
    exact Bool.false_ne_true
  · rw [Ne, trim_eq_nil_iff, getLast?_trimLines _ line hm]
    exact Bool.false_ne_true
  · rw [bodyText, String.toList_ofList, List.reverse_reverse, joinLines_eq_intercalate]

/-- What stands between blank lines and is visible at both ends is what trimming leaves. -/
theorem trimLines_append {before middle after : List (List Char)}
    (hbefore : ∀ line ∈ before, allBlank line = true)
    (hafter : ∀ line ∈ after, allBlank line = true)
    (hfirst : ∀ line ∈ middle.head?, allBlank line = false)
    (hlast : ∀ line ∈ middle.getLast?, allBlank line = false) :
    trimLines (before ++ middle ++ after) = middle := by
  have hreverse : ∀ line ∈ after.reverse, allBlank line = true := fun line hm =>
    hafter line (List.mem_reverse.mp hm)
  rw [trimLines, List.append_assoc, List.dropWhile_append_of_pos hbefore]
  cases middle with
  | nil => rw [List.nil_append, List.dropWhile_eq_nil_iff.mpr hafter]; rfl
  | cons line rest =>
    have hline : allBlank line = false := hfirst line rfl
    rw [List.cons_append, List.dropWhile_cons_of_neg (by simp [hline]), ← List.cons_append,
      List.reverse_append, List.dropWhile_append_of_pos hreverse]
    have hend := trimLines_eq_self hfirst hlast
    rwa [trimLines, List.dropWhile_cons_of_neg (by simp [hline])] at hend

/-- A body has one text. -/
theorem BodyText.unique {body : List (List Char)} {text text' : List Char} (h : BodyText body text)
    (h' : BodyText body text') : text' = text := by
  have hmiddle {text : List Char} (h : BodyText body text) :
      text = ['\n'].intercalate (trimLines (shown body)) := by
    obtain ⟨before, middle, after, hcut, hblank, hfirst, hlast, rfl⟩ := h
    have hshown : shown body = before ++ middle ++ after := hcut
    simp only [List.mem_append, Ne, trim_eq_nil_iff, Bool.not_eq_true] at hblank hfirst hlast
    rw [hshown, trimLines_append (fun line hm => hblank line (.inl hm))
      (fun line hm => hblank line (.inr hm)) hfirst hlast]
  rw [hmiddle h, hmiddle h']

/-! ### Records -/

theorem toPrompt_eq_ok {header : Header} {rules : Rules} {body : List (List Char)} {prompt : Prompt} :
    header.toPrompt rules body = .ok prompt ↔
      (rules.requireName = true → header.name ≠ none) ∧
      prompt = ⟨header.name.getD "", bodyText body, header.model, header.extract, header.paste,
        header.options, none⟩ := by
  rw [Header.toPrompt]
  cases header.name with
  | some name => simp only [Except.ok.injEq, eq_comm (b := prompt), Option.getD_some]; simp
  | none => cases rules.requireName <;> simp [eq_comm (b := prompt)]

/-- A header has a name if one of its lines gives it. -/
theorem Header.Holds.name_ne_none {header : Header} {ls : List (List Char)} (hs : header.Holds ls) :
    header.name ≠ none ↔ ∃ line ∈ ls, ∃ value, Entry line "name".toList value := by
  obtain ⟨value?, hlast, hfield⟩ := hs.field "name".toList
  rw [field_name] at hfield
  rw [hfield]
  cases value? with
  | none =>
    refine ⟨fun h => absurd rfl h, fun h => ?_⟩
    obtain ⟨line, hm, value, hentry⟩ := h
    exact absurd hentry (hlast line hm value)
  | some value =>
    obtain ⟨before, line, after, rfl, hentry, -⟩ := hlast
    exact ⟨fun _ => ⟨line, by simp, value, hentry⟩, fun _ => Option.some_ne_none _⟩

theorem record?_eq_some {rules : Rules} {header body : List (List Char)} {prompt : Prompt} :
    record? rules header body = some prompt ↔
      ∃ said, Header.readAll {} header = .ok said ∧
        said.toPrompt rules (shown body).reverse = .ok prompt := by
  simp only [record?, Option.bind_eq_some_iff, toOption_eq_some_iff]

/-- **A header and a body make a record if the header is one.** -/
theorem exists_record? {rules : Rules} {header : List (List Char)} (body : List (List Char)) :
    (∃ prompt, record? rules header body = some prompt) ↔ HeaderSegment rules header := by
  constructor
  · intro h
    obtain ⟨prompt, hrecord⟩ := h
    obtain ⟨said, hsaid, hprompt⟩ := record?_eq_some.mp hrecord
    refine ⟨(exists_readAll {}).mp ⟨said, hsaid⟩, fun hrules => ?_⟩
    exact (holds_of_readAll hsaid).name_ne_none.mp ((toPrompt_eq_ok.mp hprompt).1 hrules)
  · intro h
    obtain ⟨said, hsaid⟩ := (exists_readAll {}).mpr h.lines
    have hname := fun hrules => (holds_of_readAll hsaid).name_ne_none.mpr (h.named hrules)
    exact ⟨_, record?_eq_some.mpr ⟨said, hsaid, toPrompt_eq_ok.mpr ⟨hname, rfl⟩⟩⟩

/-- A record is what its header and its body stand for. -/
theorem describes_of_record? {rules : Rules} {header body : List (List Char)} {prompt : Prompt}
    (h : record? rules header body = some prompt) : Describes header body prompt := by
  obtain ⟨said, hsaid, hprompt⟩ := record?_eq_some.mp h
  obtain ⟨-, rfl⟩ := toPrompt_eq_ok.mp hprompt
  have hs := holds_of_readAll hsaid
  refine ⟨?_, ?_, ?_, ?_, fun key hkey => ?_, hs.free, bodyText_shown body, rfl⟩
  · obtain ⟨value?, hlast, hfield⟩ := hs.field "name".toList
    rw [field_name, keptAs_of_ne (by decide +kernel)] at hfield
    refine ⟨value?, hlast, ?_⟩
    cases value? <;> simp [hfield]
  · obtain ⟨value?, hlast, hfield⟩ := hs.field "model".toList
    rw [field_model, keptAs_of_ne (by decide +kernel)] at hfield
    exact ⟨value?, hlast, hfield⟩
  · obtain ⟨value?, hlast, hfield⟩ := hs.field "extract".toList
    rw [field_extract, keptAs_extract] at hfield
    exact ⟨value?, hlast, hfield⟩
  · obtain ⟨value?, hlast, hfield⟩ := hs.field "paste".toList
    rw [field_paste, keptAs_of_ne (by decide +kernel)] at hfield
    exact ⟨value?, hlast, hfield⟩
  · have hne (other : String) (ho : Prompt.isReservedKey other = true) :
        key.toList ≠ other.toList := fun e => by
      rw [String.toList_inj.mp e, ho] at hkey
      cases hkey
    obtain ⟨value?, hlast, hfield⟩ := hs.field key.toList
    rw [field_option _ (hne _ rfl) (hne _ rfl) (hne _ rfl) (hne _ rfl), keptAs_of_ne (hne _ rfl),
      String.ofList_toList] at hfield
    exact ⟨value?, hlast, hfield⟩

/-- What is made of the last value of a key is settled by the header. -/
theorem eq_of_lastValue {header : List (List Char)} {key : List Char} {f : Option (List Char) → α}
    {x x' : α} (h : ∃ value?, LastValue header key value? ∧ x = f value?)
    (h' : ∃ value?, LastValue header key value? ∧ x' = f value?) : x' = x := by
  obtain ⟨value?, hlast, rfl⟩ := h
  obtain ⟨value?', hlast', rfl⟩ := h'
  rw [hlast.unique hlast']

theorem text_injective : Function.Injective PasteMode.text := by
  intro mode mode' h
  rw [← Option.some_inj, ← PasteMode.ofText?_text mode, h, PasteMode.ofText?_text]

/-- **A header and a body stand for one prompt.** -/
theorem Describes.unique {header body : List (List Char)} {prompt prompt' : Prompt}
    (h : Describes header body prompt) (h' : Describes header body prompt') : prompt' = prompt := by
  have hpaste : prompt'.paste = prompt.paste :=
    Option.map_injective text_injective (eq_of_lastValue h.paste h'.paste)
  have hoptions : prompt'.options = prompt.options := by
    apply Options.ext_get?
    intro key
    cases hkey : Prompt.isReservedKey key with
    | true => rw [h.free key hkey, h'.free key hkey]
    | false => exact eq_of_lastValue (h.options key hkey) (h'.options key hkey)
  have hbody : prompt'.body = prompt.body := String.toList_inj.mp (h.body.unique h'.body)
  have hsource : prompt'.sourceFile = prompt.sourceFile := by rw [h.sourceFile, h'.sourceFile]
  have hname := eq_of_lastValue h.name h'.name
  have hmodel := eq_of_lastValue h.model h'.model
  have hextract := eq_of_lastValue h.extract h'.extract
  cases prompt
  cases prompt'
  simp only at hname hbody hmodel hextract hpaste hoptions hsource
  subst hname hbody hmodel hextract hpaste hoptions hsource
  rfl

/-- **A record is what an accepted header and the body under it stand for.** -/
theorem record?_eq_some_iff {rules : Rules} {header body : List (List Char)} {prompt : Prompt} :
    record? rules header body = some prompt ↔
      HeaderSegment rules header ∧ Describes header body prompt := by
  constructor
  · intro h
    exact ⟨(exists_record? body).mp ⟨prompt, h⟩, describes_of_record? h⟩
  · intro h
    obtain ⟨hheader, hdescribes⟩ := h
    obtain ⟨prompt', hrecord⟩ := (exists_record? body).mpr hheader
    rwa [hdescribes.unique (describes_of_record? hrecord)] at hrecord

/-- **Segments that come out even make records if every other one is a header.** -/
theorem exists_records? {rules : Rules} {segs : List (List (List Char))} :
    (∃ prompts, records? rules segs = some prompts) ↔
      segs.length % 2 = 0 ∧ ∀ k header, segs[2 * k]? = some header → HeaderSegment rules header := by
  induction segs using records?.induct with
  | case1 => simp [records?]
  | case2 header => simp [records?]
  | case3 header body rest ih =>
    have hsplit : (∃ prompts, records? rules (header :: body :: rest) = some prompts) ↔
        (∃ prompt, record? rules header body = some prompt) ∧
          ∃ prompts, records? rules rest = some prompts := by
      cases hrecord : record? rules header body <;> simp [records?, hrecord]
    rw [hsplit, exists_record?, ih, List.length_cons, List.length_cons]
    constructor
    · intro h
      obtain ⟨hheader, hlength, hrest⟩ := h
      refine ⟨by omega, fun k other hk => ?_⟩
      cases k with
      | zero =>
        obtain rfl := Option.some.inj hk
        exact hheader
      | succ k => exact hrest k other hk
    · intro h
      obtain ⟨hlength, hheader⟩ := h
      exact ⟨hheader 0 header rfl, by omega, fun k other hk => hheader (k + 1) other hk⟩

/-- **The records of segments are the records of every two of them, in order.** -/
theorem records?_eq_some_iff {rules : Rules} {segs : List (List (List Char))} {prompts : List Prompt} :
    records? rules segs = some prompts ↔
      segs.length = 2 * prompts.length ∧
      ∀ k prompt, prompts[k]? = some prompt → ∃ header body, segs[2 * k]? = some header ∧
        segs[2 * k + 1]? = some body ∧ record? rules header body = some prompt := by
  induction segs using records?.induct generalizing prompts with
  | case1 => cases prompts <;> simp [records?]
  | case2 header =>
    simp only [records?, List.length_singleton, reduceCtorEq, false_iff, not_and]
    omega
  | case3 header body rest ih =>
    cases prompts with
    | nil => cases hrecord : record? rules header body <;> simp [records?, hrecord]
    | cons prompt more =>
      have hsplit : records? rules (header :: body :: rest) = some (prompt :: more) ↔
          record? rules header body = some prompt ∧ records? rules rest = some more := by
        cases hrecord : record? rules header body <;> simp [records?, hrecord, and_comm]
      rw [hsplit, ih, List.length_cons, List.length_cons, List.length_cons]
      constructor
      · intro h
        obtain ⟨hrecord, hlength, hrest⟩ := h
        refine ⟨by omega, fun k other hk => ?_⟩
        cases k with
        | zero =>
          obtain rfl := Option.some.inj hk
          exact ⟨header, body, rfl, rfl, hrecord⟩
        | succ k => exact hrest k other hk
      · intro h
        obtain ⟨hlength, hall⟩ := h
        obtain ⟨header', body', hheader, hbody, hrecord⟩ := hall 0 prompt rfl
        obtain rfl := Option.some.inj hheader
        obtain rfl := Option.some.inj hbody
        exact ⟨hrecord, by omega, fun k other hk => hall (k + 1) other hk⟩

/-! ### Texts -/

theorem parse_eq_ok_iff {rules : Rules} {text : String} {prompts : List Prompt} :
    parse rules text = .ok prompts ↔ records? rules (segmentsOf text).tail = some prompts := by
  rw [parse, ← toOption_eq_some_iff, toOption_parseLines, segmentsOf]

/-- The records of an accepted text are those of its segments, two by two. -/
theorem record_of_parse {rules : Rules} {text : String} {prompts : List Prompt}
    (h : parse rules text = .ok prompts) :
    (segmentsOf text).length = 2 * prompts.length + 1 ∧
    ∀ k prompt, prompts[k]? = some prompt → ∃ header body,
      (segmentsOf text)[2 * k + 1]? = some header ∧ (segmentsOf text)[2 * k + 2]? = some body ∧
      record? rules header body = some prompt := by
  obtain ⟨first, rest, hcut⟩ := List.exists_cons_of_ne_nil (segments_ne_nil (lines text.toList))
  have hsegments : segmentsOf text = first :: rest := hcut
  rw [parse_eq_ok_iff, hsegments, List.tail_cons, records?_eq_some_iff] at h
  obtain ⟨hlength, hrecords⟩ := h
  rw [hsegments, List.length_cons]
  exact ⟨by omega, hrecords⟩

/-- **A text is accepted if it follows the grammar, and gives the prompts that it describes**,
and no others. What stands before the first fence has no part in it. -/
theorem parse_grammar (rules : Rules) (text : String) :
    ((∃ prompts, parse rules text = .ok prompts) ↔
      (segmentsOf text).length % 2 = 1 ∧ ∀ k header,
        (segmentsOf text)[2 * k + 1]? = some header → HeaderSegment rules header) ∧
    (∀ prompts, parse rules text = .ok prompts ↔
      (segmentsOf text).length = 2 * prompts.length + 1 ∧
      ∀ k prompt, prompts[k]? = some prompt → ∃ header body,
        (segmentsOf text)[2 * k + 1]? = some header ∧
        (segmentsOf text)[2 * k + 2]? = some body ∧
        HeaderSegment rules header ∧ Describes header body prompt) ∧
    (∀ other, (segmentsOf other).tail = (segmentsOf text).tail →
      (parse rules other).toOption = (parse rules text).toOption) := by
  obtain ⟨first, rest, hcut⟩ := List.exists_cons_of_ne_nil (segments_ne_nil (lines text.toList))
  have hsegments : segmentsOf text = first :: rest := hcut
  simp only [parse_eq_ok_iff, hsegments, List.tail_cons, List.length_cons, List.getElem?_cons_succ]
  refine ⟨?_, fun prompts => ?_, fun other h => ?_⟩
  · rw [exists_records?]
    exact and_congr_left' (by omega)
  · simp only [records?_eq_some_iff, record?_eq_some_iff]
    exact and_congr_left' (by omega)
  · rw [parse, parse, toOption_parseLines, toOption_parseLines]
    rw [segmentsOf] at h hsegments
    rw [h, hsegments, List.tail_cons]

end Promptbook.Template
