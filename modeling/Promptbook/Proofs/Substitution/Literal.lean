import Mathlib.Data.List.Basic
import Mathlib.Data.List.Forall2
import Promptbook.Proofs.Substitution.Expansion

/-! What becomes of literal text.

A finished text is made of one piece for each part of its body, in the order of the parts:
the character itself outside placeholders, and the value that was given for each
placeholder (`Fills`), where the labelled ones take what was typed in turn
(`labelledPieces`). Every character of a piece reaches the text unchanged and in its place,
but for the two reserved ones, of which one is shown as a dollar sign and the other is left
out (`shown`). A text comes out as it was exactly if it holds neither
(`asShown_eq_self_iff`). -/
namespace Promptbook.Substitution
open Text

/-! ### Characters as they are shown -/

/-- What a finished text shows for a character of a body or of a value. -/
def shown (c : Char) : Option Char :=
  if c = edgeMark then none else if c = dollarMark then some '$' else some c

/-- A text as it is shown when nothing in it is replaced. -/
def asShown (text : String) : String := String.ofList (text.toList.filterMap shown)

theorem withoutMarks_eq_filterMap (text : List Char) : withoutMarks text = text.filterMap shown := by
  induction text with
  | nil => rfl
  | cons c rest ih =>
    rw [← List.singleton_append, withoutMarks_append, ih, List.filterMap_append]
    congr 1
    by_cases he : c = edgeMark
    · simp [withoutMarks, shown, he]
    · by_cases hd : c = dollarMark
      · subst hd
        decide
      · simp [withoutMarks, shown, he, hd]

theorem shown_eq_self_iff {c : Char} : shown c = some c ↔ c ≠ edgeMark ∧ c ≠ dollarMark := by
  unfold shown
  by_cases he : c = edgeMark
  · simp [he]
  · by_cases hd : c = dollarMark
    · subst hd
      simp [he, (by decide : '$' ≠ dollarMark)]
    · simp [he, hd]

/-- **A text is shown as it is exactly if it holds neither reserved character.** -/
theorem asShown_eq_self_iff {text : String} :
    asShown text = text ↔ edgeMark ∉ text.toList ∧ dollarMark ∉ text.toList := by
  have hself :
      text.toList.filterMap shown = text.toList.map id ↔ ∀ c ∈ text.toList, shown c = some c :=
    List.filterMap_eq_map_iff_forall_eq_some
  rw [List.map_id] at hself
  rw [asShown, ← String.toList_inj, String.toList_ofList, hself]
  simp only [shown_eq_self_iff]
  constructor
  · intro h
    exact ⟨fun hm => (h _ hm).1 rfl, fun hm => (h _ hm).2 rfl⟩
  · intro h c hc
    exact ⟨fun e => h.1 (e ▸ hc), fun e => h.2 (e ▸ hc)⟩

/-! ### Pieces of an expansion -/

/-- The text that an expansion writes for a part, where these answers were given to labels. -/
inductive Written (value : Placeholder → Option String) (answered : List (List Char × String)) :
    Part Placeholder → List Char → Prop where
  | plain (c : Char) : Written value answered (.plain c) [c]
  | labelled {label : List Char} {v : String} (h : (label, v) ∈ answered) :
      Written value answered (.found (.labelled label)) v.toList
  | value {p : Placeholder} {v : String} (hl : p.isLabelled = false) (h : value p = some v) :
      Written value answered (.found p) v.toList

/-- The pieces that stand for labelled placeholders, in order. -/
def labelledPieces : List (Part Placeholder) → List (List Char) → List (List Char)
  | .found (.labelled _) :: parts, piece :: pieces => piece :: labelledPieces parts pieces
  | _ :: parts, _ :: pieces => labelledPieces parts pieces
  | _, _ => []

theorem Written.mono {value : Placeholder → Option String}
    {answered answered' : List (List Char × String)} (h : ∀ p ∈ answered, p ∈ answered')
    {part : Part Placeholder} {piece : List Char} (hw : Written value answered part piece) :
    Written value answered' part piece := by
  cases hw with
  | plain c => exact .plain c
  | labelled hm => exact .labelled (h _ hm)
  | value hl hv => exact .value hl hv

/-- **An expansion is made of one piece for each part**, and the labelled placeholders take
the answers one after another. -/
theorem pieces_of_expand? {value : Placeholder → Option String} {answers : List String}
    {parts : List (Part Placeholder)} {text : List Char}
    (h : expand? value answers parts = some text) :
    ∃ pieces, List.Forall₂ (Written value ((labelsOf parts).zip answers)) parts pieces ∧
      labelledPieces parts pieces <+: answers.map String.toList ∧ text = pieces.flatten := by
  induction parts generalizing answers text with
  | nil =>
    simp only [expand?, Option.some.injEq] at h
    exact ⟨[], .nil, List.nil_prefix, h.symm⟩
  | cons part rest ih =>
    cases part with
    | plain c =>
      obtain ⟨text', hrest, htext⟩ := Option.bind_eq_some_iff.mp h
      obtain ⟨pieces, hpieces, hlabelled, rfl⟩ := ih hrest
      obtain rfl := Option.some.inj htext
      exact ⟨[c] :: pieces, .cons (.plain c) hpieces, hlabelled, rfl⟩
    | found p =>
      cases hl : p.isLabelled with
      | true =>
        cases p with
        | labelled label =>
          cases answers with
          | nil => cases h
          | cons answer answers =>
            obtain ⟨text', hrest, htext⟩ := Option.bind_eq_some_iff.mp h
            obtain ⟨pieces, hpieces, hlabelled, rfl⟩ := ih hrest
            obtain rfl := Option.some.inj htext
            refine ⟨answer.toList :: pieces, .cons (.labelled ?_) ?_, ?_, rfl⟩
            · simp [labelsOf]
            · exact hpieces.imp fun _ _ hw => hw.mono fun q hq => by simp [labelsOf, hq]
            · exact (List.prefix_cons_inj _).mpr hlabelled
        | _ => cases hl
      | false =>
        rw [expand?_found hl] at h
        obtain ⟨v, hv, h⟩ := Option.bind_eq_some_iff.mp h
        obtain ⟨text', hrest, htext⟩ := Option.bind_eq_some_iff.mp h
        obtain ⟨pieces, hpieces, hlabelled, rfl⟩ := ih hrest
        obtain rfl := Option.some.inj htext
        have hrest : labelsOf (.found p :: rest) = labelsOf rest ∧
            labelledPieces (.found p :: rest) (v.toList :: pieces) = labelledPieces rest pieces := by
          cases p with
          | labelled label => cases hl
          | _ => exact ⟨rfl, rfl⟩
        rw [hrest.1]
        exact ⟨v.toList :: pieces, .cons (.value hl hv) hpieces, by rwa [hrest.2], rfl⟩

/-! ### Pieces of a finished text -/

/-- What a part of a body with so many labels contributes to the text: a character itself, and
a placeholder the value that was given for it, once an origin has been chosen for `$select`. -/
inductive Fills (log : List Exchange) (labels : Nat) (choice : Option Origin) :
    Part Placeholder → List Char → Prop where
  | plain (c : Char) : Fills log labels choice (.plain c) [c]
  | labelled {label : List Char} {v : String}
      (h : .input (labelPrompt (withChoice choice label)) (.ok (some v)) ∈ log) :
      Fills log labels choice (.found (.labelled label)) v.toList
  | value {p : Placeholder} {v : String} (hl : p.isLabelled = false)
      (h : valueIn log labels (resolved choice p) = some v) :
      Fills log labels choice (.found p) v.toList

theorem Given.mem_log_of_labelled {given : Given} {labels : List (List Char)} {label : List Char}
    {v : String} (h : (label, v) ∈ labels.zip given.labels) :
    .input (labelPrompt label) (.ok (some v)) ∈ given.log labels := by
  have hmem : Exchange.input (labelPrompt label) (.ok (some v)) ∈
      List.zipWith (fun label answer => .input (labelPrompt label) (.ok (some answer)))
        labels given.labels := by
    rw [← List.map_uncurry_zip_eq_zipWith]
    exact List.mem_map.mpr ⟨_, h, rfl⟩
  simp only [Given.log, List.mem_append]
  exact .inl (.inl (.inl hmem))

theorem fills_of_written {given : Given} {choice : Option Origin} {parts : List (Part Placeholder)}
    {log : List Exchange} (hvalue : valueIn log (labelsOf parts).length = given.value?)
    (hlog : ∀ e ∈ given.log (labelsOf (chosenParts choice parts)), e ∈ log)
    {part : Part Placeholder} {piece : List Char}
    (h : Written (fun p => given.value? (resolved choice p)) ((labelsOf parts).zip given.labels)
      part piece) : Fills log (labelsOf parts).length choice part piece := by
  cases h with
  | plain c => exact .plain c
  | labelled hm =>
    refine .labelled (hlog _ (given.mem_log_of_labelled ?_))
    rw [labelsOf_chosenParts, List.zip_map_left]
    exact List.mem_map.mpr ⟨_, hm, rfl⟩
  | value hl hv => exact .value hl (by rw [hvalue]; exact hv)

/-! ### Bodies without placeholders -/

theorem eq_map_plain {parts : List (Part Placeholder)} (h : ∀ p, .found p ∉ parts) :
    parts = (spell parts).map .plain := by
  induction parts with
  | nil => rfl
  | cons part rest ih =>
    have hrest := ih fun p hp => h p (List.mem_cons_of_mem _ hp)
    cases part with
    | plain c => rw [spell_plain, List.map_cons, ← hrest]
    | found p => exact absurd List.mem_cons_self (h p)

theorem scan_eq_map_plain {body : List Char} (h : ∀ p, .found p ∉ scan body) :
    scan body = body.map .plain := by
  have hscan := eq_map_plain h
  rwa [(scan_standing body).1] at hscan

theorem labelsOf_map_plain (text : List Char) : labelsOf (text.map .plain) = [] := by
  induction text with
  | nil => rfl
  | cons c rest ih => exact ih

theorem needs_map_plain (p : Placeholder) (text : List Char) : needs p (text.map .plain) = false := by
  rw [← Bool.not_eq_true, needs_iff]
  simp

/-- Characters alone need no value. -/
theorem gather_map_plain (source : Source σ) (text : List Char) :
    gather source (text.map .plain) = pure ⟨[], none, [], none⟩ := by
  simp [gather, labelsOf_map_plain, askLabels, askInput, askFiletype, needs_map_plain, registersOf,
    namesOf_map_plain, askRegisters]

theorem Given.put_map_plain (given : Given) (text : List Char) :
    given.put (text.map .plain) = text.map .plain := by
  induction text with
  | nil => rfl
  | cons c rest ih => rw [List.map_cons, Given.put_plain, ih]

theorem choose_of_none (source : Source σ) (reuse : Option Origin) {body : List Char}
    (h : (scan body).any selects = false) : choose source reuse body = pure none := by
  obtain ⟨hspell, hscan⟩ := scan_standing body
  have hoccurs : occurs select? body = false := by rw [← h, ← occurs_select_spell hscan, hspell]
  simp [choose, hoccurs]

/-- **A body without placeholders is shown as it is, and nothing is asked.** -/
theorem substitute_of_plain (source : Source σ) (reuse : Option Origin) {body : String}
    (h : ∀ p, .found p ∉ scan body.toList) :
    substitute source reuse body = pure ⟨asShown body, none⟩ := by
  have hscan := scan_eq_map_plain h
  have hselects : (scan body.toList).any selects = false := by simp [hscan, selects]
  rw [substitute_eq, choose_of_none source reuse hselects, pure_bind]
  simp only [chosenParts, hscan, gather_map_plain, pure_bind, Given.put_map_plain, spell_map_plain,
    withoutMarks_eq_filterMap, asShown]

theorem gather_input (source : Source σ) :
    gather source [.found .input] = (do
      let answer ← ask source inputPrompt
      pure ⟨[], some answer, [], none⟩) := by
  have hinput : needs .input [.found .input] = true := by decide
  have hfiletype : needs .filetype [.found .input] = false := by decide
  have hregisters : registersOf [.found .input] = [] := by decide
  simp [gather, labelsOf, askLabels, askInput, hinput, hregisters, askRegisters, askFiletype,
    hfiletype]

theorem ask_of_answer {source : Source σ} {prompt answer : String} {s s' : σ}
    (h : source.input prompt s = (.ok (some answer), s')) (ha : answer ≠ "") :
    ask source prompt s = (.ok answer, s') := by
  simp [ask, Run.bind_apply, Run.ofCall, h, ha]

/-- **The body that is one bare placeholder is shown as the answer.** -/
theorem substitute_input {source : Source σ} {s s' : σ} {answer : String}
    (h : source.input inputPrompt s = (.ok (some answer), s')) (ha : answer ≠ "")
    (reuse : Option Origin) :
    substitute source reuse "$input" s = (.ok ⟨asShown answer, none⟩, s') := by
  have hscan : scan "$input".toList = [.found .input] := by decide +kernel
  have hput :
      Given.put ⟨[], some answer, [], none⟩ [.found .input] = (shielded answer).map .plain := by
    rw [Given.put_found rfl rfl]
    exact List.append_nil _
  rw [substitute_eq, choose_of_none source reuse (by rw [hscan]; rfl), pure_bind, hscan, chosenParts,
    gather_input, bind_assoc, Run.bind_apply, ask_of_answer h ha]
  simp only [pure_bind, Run.pure_apply, hput, spell_map_plain, withoutMarks_shielded]
  rw [withoutMarks_eq_filterMap, asShown]

/-! ### Whole bodies -/

/-- **Literal text reaches the finished text unchanged and in its place, but for the two
reserved characters.** A body without placeholders comes back without a call, `$input`
comes back as the answer, and a text is unchanged exactly if it holds neither. -/
theorem literals_of_substitute (source : Source σ) (reuse : Option Origin) (s : σ) :
    (∀ body finished s', substitute source reuse body s = (.ok finished, s') →
      ∃ log pieces, substitute source.witnessed reuse body (s, []) = (.ok finished, (s', log)) ∧
        List.Forall₂ (Fills log (labelsOf (scan body.toList)).length finished.select)
          (scan body.toList) pieces ∧
        labelledPieces (scan body.toList) pieces <+: (typedIn log).map String.toList ∧
        finished.text = String.ofList (pieces.flatten.filterMap shown)) ∧
    (∀ body, (∀ p, .found p ∉ scan body.toList) →
      substitute source.witnessed reuse body (s, []) = (.ok ⟨asShown body, none⟩, (s, []))) ∧
    (∀ answer s', source.input inputPrompt s = (.ok (some answer), s') → answer ≠ "" →
      substitute source reuse "$input" s = (.ok ⟨asShown answer, none⟩, s')) ∧
    ∀ text, asShown text = text ↔ edgeMark ∉ text.toList ∧ dollarMark ∉ text.toList := by
  refine ⟨fun body finished s' h => ?_, fun body h => ?_, fun answer s' h ha => ?_,
    fun text => asShown_eq_self_iff⟩
  · obtain ⟨log, hnoted, choice, -, hlog⟩ := substitute_witnessed source reuse body s
    rw [h] at hnoted hlog
    obtain ⟨-, given, hgiven, rfl⟩ := hlog
    have hlength := hgiven.covers.labels
    obtain ⟨hvalue, htyped⟩ := valueIn_choiceLog_append reuse choice (scan body.toList)
      (given.log (labelsOf (chosenParts choice (scan body.toList))))
    obtain ⟨text, hexpand, hmarks⟩ := withoutMarks_put [] hlength fun p hp hl =>
      hgiven.covers.isSome hp hl fun hs => select_not_mem_chosenParts hgiven.chosen (hs ▸ hp)
    rw [List.append_nil, expand?_chosenParts] at hexpand
    obtain ⟨pieces, hpieces, hlabelled, rfl⟩ := pieces_of_expand? hexpand
    refine ⟨_, pieces, hnoted, ?_, ?_, ?_⟩
    · rw [hgiven.select]
      refine hpieces.imp fun _ _ hw => fills_of_written ?_ (fun _ => List.mem_append_right _) hw
      rw [hvalue, ← length_labelsOf_chosenParts choice, valueIn_log hlength]
    · rw [htyped, typedIn_log hlength, List.map_append]
      exact hlabelled.trans (List.prefix_append _ _)
    · rw [hgiven.text, hmarks, withoutMarks_eq_filterMap]
  · rw [substitute_of_plain source.witnessed reuse h]
    rfl
  · exact substitute_input h ha reuse

/-- Reserved characters in a body and in an answer, and all else as it was. -/
theorem literals_of_substitute_answer :
    (∃ log pieces, substitute Script.source.witnessed none "<$input\ue000>"
          (⟨[some "a\ue001$"], none, none, [], "", [], 0⟩, []) =
          (.ok ⟨"<a$$>", none⟩, (⟨[], none, none, [], "", ["Input: "], 0⟩, log)) ∧
        List.Forall₂ (Fills log 0 none) (scan "<$input\ue000>".toList) pieces ∧
        labelledPieces (scan "<$input\ue000>".toList) pieces <+: (typedIn log).map String.toList ∧
        "<a$$>" = String.ofList (pieces.flatten.filterMap shown)) ∧
      substitute Script.source.witnessed none "$inputs\ue000" ({}, []) =
        (.ok ⟨asShown "$inputs\ue000", none⟩, ({}, [])) ∧
      substitute Script.source none "$input" ⟨[some "a\ue001$"], none, none, [], "", [], 0⟩ =
        (.ok ⟨asShown "a\ue001$", none⟩, ⟨[], none, none, [], "", ["Input: "], 0⟩) := by
  have hrun : substitute Script.source none "<$input\ue000>"
      ⟨[some "a\ue001$"], none, none, [], "", [], 0⟩ =
      (.ok ⟨"<a$$>", none⟩, ⟨[], none, none, [], "", ["Input: "], 0⟩) := by decide +kernel
  have hscan : scan "$inputs\ue000".toList = "$inputs\ue000".toList.map .plain := by decide +kernel
  have hlabels : (labelsOf (scan "<$input\ue000>".toList)).length = 0 := by decide +kernel
  have hplain : ∀ p, .found p ∉ scan "$inputs\ue000".toList := by
    intro p
    rw [hscan]
    simp
  refine ⟨?_, ?_, ?_⟩
  · have hpieces := (literals_of_substitute Script.source none _).1 _ _ _ hrun
    rwa [hlabels] at hpieces
  · exact (literals_of_substitute Script.source none {}).2.1 _ hplain
  · exact (literals_of_substitute Script.source none _).2.2.1 _ _ rfl (by decide)

/-- A reserved character is literal text as well, and a body of nothing else is lost. -/
theorem literals_lose_reserved :
    ¬∀ body : String, (∀ p, .found p ∉ scan body.toList) →
      ∀ finished, (substitute Script.source none body {}).1 = .ok finished →
        finished.text = body := by
  intro h
  have hscan : scan "\ue001".toList = [.plain '\ue001'] := by decide +kernel
  have hrun : (substitute Script.source none "\ue001" {}).1 = .ok ⟨"", none⟩ := by decide +kernel
  have hkept := h "\ue001" (by intro p; rw [hscan]; simp) _ hrun
  exact absurd hkept (by decide)

end Promptbook.Substitution
