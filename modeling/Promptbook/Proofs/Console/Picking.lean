import Mathlib.Data.List.Forall2
import Promptbook.Proofs.Console.Lines
import Promptbook.Proofs.Text.Trim

/-! What an answer picks.

An answer without the blanks around it is a numeral (`Numeral`), or a label in any case
(`SpelledAs`), or neither, and never both (`Numeral.not_spelledAs`). A numeral counts the entries
of the list from one; one that is too large for a word is no number to the console and is looked
for among the labels, where it is not found either. So an entry is picked exactly if its place or
its label was given (`pick?_eq_some_iff`), and `choosing_laws` says the same of a whole question:
of the list that is shown, and of the line that is read. -/
namespace Promptbook.Substitution.Console
open Text

/-! ### Numerals -/

/-- Digits that write a number, the last of them the ones. -/
def IsDigits (digits : List Char) : Prop := digits ≠ [] ∧ ∀ c ∈ digits, c.isDigit = true

/-- A text that writes a number: digits, with a plus sign before them or without. -/
inductive Numeral : List Char → Nat → Prop where
  | bare {digits : List Char} (h : IsDigits digits) : Numeral digits (Nat.ofDigitChars 10 digits 0)
  | signed {digits : List Char} (h : IsDigits digits) :
      Numeral ('+' :: digits) (Nat.ofDigitChars 10 digits 0)

theorem IsDigits.no_sign {digits : List Char} (h : IsDigits digits) (rest : List Char) :
    digits ≠ '+' :: rest := by
  rintro rfl
  exact absurd (h.2 '+' List.mem_cons_self) (by decide)

instance (digits : List Char) : Decidable (IsDigits digits) :=
  inferInstanceAs (Decidable (digits ≠ [] ∧ ∀ c ∈ digits, c.isDigit = true))

/-- The number that digits write, if a word can hold it. -/
def digits? (digits : List Char) : Option Nat :=
  if IsDigits digits ∧ Nat.ofDigitChars 10 digits 0 ≤ numberLimit then
    some (Nat.ofDigitChars 10 digits 0)
  else none

section
variable {text : List Char} {n : Nat}

theorem number?_signed (digits : List Char) : number? ('+' :: digits) = digits? digits := by
  have hvalue : digits.foldl (fun n c => n * 10 + (c.toNat - '0'.toNat)) 0 =
      Nat.ofDigitChars 10 digits 0 := by
    simp only [Nat.ofDigitChars, Nat.mul_comm]
  simp only [number?, digits?, hvalue, IsDigits]
  grind

theorem number?_of_no_sign (h : ∀ rest, text ≠ '+' :: rest) : number? text = digits? text := by
  rw [← number?_signed]
  unfold number?
  split
  · exact absurd rfl (h _)
  · rfl

/-- **A numeral is read as its number**, unless that is too large for a word. -/
theorem Numeral.number? (h : Numeral text n) :
    number? text = if n ≤ numberLimit then some n else none := by
  cases h with
  | bare h =>
    rw [number?_of_no_sign h.no_sign]
    simp [digits?, h]
  | signed h =>
    rw [number?_signed]
    simp [digits?, h]

/-- Nothing but a numeral is read as a number. -/
theorem numeral_of_number? (h : number? text = some n) : Numeral text n := by
  have hdigits {digits : List Char} (h : digits? digits = some n) :
      IsDigits digits ∧ Nat.ofDigitChars 10 digits 0 = n := by
    obtain ⟨hok, hvalue⟩ := Option.ite_none_right_eq_some.mp h
    exact ⟨hok.1, Option.some.inj hvalue⟩
  by_cases hsign : ∃ rest, text = '+' :: rest
  · obtain ⟨rest, rfl⟩ := hsign
    rw [number?_signed] at h
    obtain ⟨hok, rfl⟩ := hdigits h
    exact .signed hok
  · rw [number?_of_no_sign fun rest heq => hsign ⟨rest, heq⟩] at h
    obtain ⟨hok, rfl⟩ := hdigits h
    exact .bare hok

end

/-- A number as it is shown is a numeral. -/
theorem numeral_toString (n : Nat) : Numeral (toString n).toList n := by
  rw [Nat.toString_eq_repr, Nat.toList_repr]
  have h : IsDigits (Nat.toDigits 10 n) :=
    ⟨Nat.toDigits_ne_nil, fun c => Nat.isDigit_of_mem_toDigits (by decide) (by decide)⟩
  simpa only [Nat.ofDigitChars_toDigits (b := 10) (by decide) (by decide)] using Numeral.bare h

/-! ### Labels in any case -/

/-- Letters that differ in their case alone, or not at all. -/
inductive SameLetter : Char → Char → Prop where
  | same (c : Char) : SameLetter c c
  | lowered {c d : Char} (h : c.isUpper = true) (hd : d.toNat = c.toNat + 32) : SameLetter c d
  | raised {c d : Char} (h : d.isUpper = true) (hc : c.toNat = d.toNat + 32) : SameLetter c d

/-- A text that is a label but for the case of its letters. -/
def SpelledAs (label : String) (text : List Char) : Prop :=
  List.Forall₂ SameLetter label.toList text

theorem isUpper_iff_toNat {c : Char} : c.isUpper = true ↔ 65 ≤ c.toNat ∧ c.toNat ≤ 90 := by
  have h : c.isUpper = true ↔ 'A' ≤ c ∧ c ≤ 'Z' := decide_eq_true_iff
  rw [h, Char.le_def, Char.le_def, UInt32.le_iff_toNat_le, UInt32.le_iff_toNat_le]
  rfl

theorem toNat_toLower (c : Char) :
    c.toLower.toNat = if c.isUpper = true then c.toNat + 32 else c.toNat := by
  split
  · next h =>
    have hrange := isUpper_iff_toNat.mp h
    have hlower : c.toLower.val = c.val + 32 := congrArg Char.val (dif_pos (of_decide_eq_true h))
    rw [← Char.toNat_val, hlower, UInt32.toNat_add, Char.toNat_val]
    exact Nat.mod_eq_of_lt (by simp; omega)
  · next h =>
    have hlower : c.toLower = c := dif_neg fun hupper => h (decide_eq_true hupper)
    rw [hlower]

theorem toLower_eq_iff {c d : Char} : c.toLower = d.toLower ↔ SameLetter c d := by
  rw [← Char.toNat_inj, toNat_toLower, toNat_toLower]
  constructor
  · intro h
    split at h <;> split at h
    · rw [Char.toNat_inj.mp (Nat.add_right_cancel h)]
      exact .same d
    · next hc _ => exact .lowered hc h.symm
    · next _ hd => exact .raised hd h
    · rw [Char.toNat_inj.mp h]
      exact .same d
  · rintro (_ | ⟨hc, hd⟩ | ⟨hd, hc⟩)
    · rfl
    · have hrange := isUpper_iff_toNat.mp hc
      rw [if_pos hc, if_neg (by rw [isUpper_iff_toNat]; omega), hd]
    · have hrange := isUpper_iff_toNat.mp hd
      rw [if_pos hd, if_neg (by rw [isUpper_iff_toNat]; omega), hc]

theorem spelledAs_iff {label : String} {text : List Char} :
    SpelledAs label text ↔ label.toList.map Char.toLower = text.map Char.toLower := by
  rw [← List.forall₂_eq_eq_eq, List.forall₂_map_left_iff, List.forall₂_map_right_iff]
  simp only [toLower_eq_iff, SpelledAs]

/-- No numeral is a label: a label starts with a letter, and a numeral with a digit or a sign. -/
theorem Numeral.not_spelledAs {text : List Char} {n : Nat} (h : Numeral text n) (origin : Origin) :
    ¬SpelledAs origin.label text := by
  have hlow : ∃ d rest, text = d :: rest ∧ d.toNat < 65 := by
    cases h with
    | bare h =>
      obtain ⟨d, rest, rfl⟩ := List.exists_cons_of_ne_nil h.1
      have hdigit := Char.isDigit_iff_toNat.mp (h.2 d List.mem_cons_self)
      exact ⟨d, rest, rfl, Nat.lt_of_le_of_lt hdigit.2 (by decide)⟩
    | signed h => exact ⟨_, _, rfl, by decide⟩
  obtain ⟨d, rest, rfl, hd⟩ := hlow
  have hletter : ∃ c more, origin.label.toList = c :: more ∧ c.isUpper = false ∧
      65 ≤ c.toNat := by
    cases origin <;> exact ⟨_, _, rfl, by decide, by decide⟩
  obtain ⟨c, more, hlabel, hcase, hc⟩ := hletter
  rw [SpelledAs, hlabel, List.forall₂_cons]
  rintro ⟨_ | ⟨hupper, -⟩ | ⟨hupper, -⟩, -⟩
  · omega
  · rw [hcase] at hupper
    cases hupper
  · have hrange := isUpper_iff_toNat.mp hupper
    omega

/-! ### Picking -/

section
variable {origins : List Origin} {answer : List Char}

theorem pick?_of_numeral {n : Nat} (h : Numeral (trim answer) n) (hlimit : n ≤ numberLimit) :
    pick? origins answer = if n = 0 then none else origins[n - 1]? := by
  rw [pick?, h.number?, if_pos hlimit]
  cases n <;> rfl

/-- What is no number to the console is looked for among the labels. -/
theorem pick?_of_number?_none (h : number? (trim answer) = none) :
    pick? origins answer = origins.find? fun origin =>
      origin.label.toList.map Char.toLower = (trim answer).map Char.toLower := by
  rw [pick?, h]

theorem pick?_of_large {n : Nat} (h : Numeral (trim answer) n) (hlarge : numberLimit < n) :
    pick? origins answer = none := by
  have hnone : number? (trim answer) = none := by
    rw [h.number?, if_neg (Nat.not_le.mpr hlarge)]
  rw [pick?_of_number?_none hnone, List.find?_eq_none]
  intro origin _
  rw [decide_eq_true_iff, ← spelledAs_iff]
  exact h.not_spelledAs origin

/-- What is one of a kind is found, wherever it stands. -/
theorem find?_of_unique {p : α → Bool} {l : List α} {a : α} (hmem : a ∈ l) (ha : p a = true)
    (hunique : ∀ b, p b = true → b = a) : l.find? p = some a := by
  obtain ⟨b, hb⟩ := Option.isSome_iff_exists.mp (List.find?_isSome.mpr ⟨a, hmem, ha⟩)
  rw [hb, hunique b (List.find?_some hb)]

/-- Labels differ in more than the case of their letters. -/
theorem SpelledAs.unique {origin other : Origin} {text : List Char}
    (h : SpelledAs origin.label text) (h' : SpelledAs other.label text) : origin = other := by
  have hlabels : origin.label.toList.map Char.toLower = other.label.toList.map Char.toLower :=
    (spelledAs_iff.mp h).trans (spelledAs_iff.mp h').symm
  cases origin <;> cases other <;> first | rfl | exact absurd hlabels (by decide)

theorem pick?_of_no_numeral (h : ∀ n, ¬Numeral (trim answer) n) (origin : Origin) :
    pick? origins answer = some origin ↔ origin ∈ origins ∧ SpelledAs origin.label (trim answer) := by
  have hnone : number? (trim answer) = none := by
    rw [Option.eq_none_iff_forall_ne_some]
    exact fun n hn => h n (numeral_of_number? hn)
  rw [pick?_of_number?_none hnone]
  constructor
  · intro hfind
    have hspelled := List.find?_some hfind
    rw [decide_eq_true_iff, ← spelledAs_iff] at hspelled
    exact ⟨List.mem_of_find?_eq_some hfind, hspelled⟩
  · rintro ⟨hmem, hspelled⟩
    refine find?_of_unique hmem (decide_eq_true (spelledAs_iff.mp hspelled)) fun other hother => ?_
    exact (spelledAs_iff.mpr (of_decide_eq_true hother)).unique hspelled

/-- **An entry is picked** by its place, if that fits into a word, and by its label. -/
theorem pick?_eq_some_iff {origin : Origin} :
    pick? origins answer = some origin ↔
      (∃ n, Numeral (trim answer) n ∧ n ≤ numberLimit ∧ n ≠ 0 ∧ origins[n - 1]? = some origin) ∨
        origin ∈ origins ∧ SpelledAs origin.label (trim answer) := by
  by_cases hnumeral : ∃ n, Numeral (trim answer) n
  · obtain ⟨n, hn⟩ := hnumeral
    rw [or_iff_left fun h => hn.not_spelledAs origin h.2]
    constructor
    · intro hpick
      have hlimit : n ≤ numberLimit := by
        by_contra hlarge
        rw [pick?_of_large hn (Nat.lt_of_not_le hlarge)] at hpick
        cases hpick
      rw [pick?_of_numeral hn hlimit] at hpick
      obtain ⟨hzero, horigin⟩ := Option.ite_none_left_eq_some.mp hpick
      exact ⟨n, hn, hlimit, hzero, horigin⟩
    · rintro ⟨m, hm, hlimit, hzero, horigin⟩
      rw [pick?_of_numeral hm hlimit, if_neg hzero, horigin]
  · rw [not_exists] at hnumeral
    rw [pick?_of_no_numeral hnumeral]
    refine (or_iff_right ?_).symm
    rintro ⟨n, hn, -⟩
    exact hnumeral n hn

/-- A sign, a zero in front and blanks around make no other number. -/
example : pick? [.clipboard, .input, .yanked] " +02\r".toList = some .input := by decide

/-- A label picks the first entry that bears it. -/
theorem pick?_of_label {origin : Origin} (hmem : origin ∈ origins)
    (hspelled : SpelledAs origin.label (trim answer)) :
    pick? origins answer = some origin ∧
      origins.find? (fun other => other.label = origin.label) = some origin := by
  refine ⟨pick?_eq_some_iff.mpr (.inr ⟨hmem, hspelled⟩), ?_⟩
  refine find?_of_unique hmem (decide_eq_true rfl) fun other hother => ?_
  have hspelled' : SpelledAs other.label (trim answer) := by rwa [of_decide_eq_true hother]
  exact hspelled'.unique hspelled

/-- The place that a numeral counts to is one of the list, and that entry is picked. -/
theorem pick?_of_place {n : Nat} (h : Numeral (trim answer) n) (hpos : 1 ≤ n)
    (hlength : n ≤ origins.length) (hlimit : n ≤ numberLimit) :
    ∃ hn : n - 1 < origins.length, pick? origins answer = some origins[n - 1] := by
  have hn : n - 1 < origins.length := by omega
  refine ⟨hn, ?_⟩
  rw [pick?_of_numeral h hlimit, if_neg (by omega), List.getElem?_eq_getElem hn]

theorem pick?_of_no_place {n : Nat} (h : Numeral (trim answer) n)
    (hn : n = 0 ∨ origins.length < n ∨ numberLimit < n) : pick? origins answer = none := by
  by_cases hlimit : n ≤ numberLimit
  · rw [pick?_of_numeral h hlimit]
    split
    · rfl
    · exact List.getElem?_eq_none (by omega)
  · exact pick?_of_large h (Nat.lt_of_not_le hlimit)

theorem pick?_of_other (hnumeral : ∀ n, ¬Numeral (trim answer) n)
    (hlabel : ∀ origin ∈ origins, ¬SpelledAs origin.label (trim answer)) :
    pick? origins answer = none := by
  rw [Option.eq_none_iff_forall_ne_some]
  intro origin hpick
  obtain ⟨hmem, hspelled⟩ := (pick?_of_no_numeral hnumeral origin).mp hpick
  exact hlabel origin hmem hspelled

theorem pick?_of_blank (h : allBlank answer = true) : pick? origins answer = none := by
  rw [← trim_eq_nil_iff] at h
  refine pick?_of_other (fun n hn => ?_) fun origin _ hspelled => ?_
  · rw [h] at hn
    cases hn with
    | bare hdigits => exact hdigits.1 rfl
  · rw [h, SpelledAs, List.forall₂_nil_right_iff] at hspelled
    cases origin <;> cases hspelled

end

/-! ### At the console -/

/-- What is shown for an entry of the list. -/
def menuLine (i : Nat) (origin : Origin) : String :=
  "  " ++ toString (i + 1) ++ ") " ++ origin.label ++ "\n"

theorem menu_eq (origins : List Origin) : menu origins = String.join (origins.mapIdx menuLine) := by
  rw [menu, List.mapIdx_eq_zipIdx_map]
  rfl

/-- A question shows its list and its prompt, and picks by the line that is next. -/
theorem choose_of_console (prompt : String) (origins : List Origin) (console : Console) :
    ∃ heard after, source.choose prompt origins console =
        (heard.map fun said => said.bind fun answer => pick? origins answer.toList, after) ∧
      Hears (octetLines console.unread).head? heard ∧
      after.written = console.written ++ (menu origins ++ prompt) := by
  have hcut := cutInLines_octetLines (console.write (menu origins ++ prompt)).unread
  obtain ⟨heard, after, hread, hheard, -, hwritten, -⟩ := readLine_of_cut hcut
  refine ⟨heard, after, ?_, hheard, hwritten⟩
  rcases heard with error | said | said <;> simp [source, hread, Except.map]

/-- **The laws of choosing.** A question shows every entry with its number, and the line that is
read for it picks. A numeral picks the entry of that number, if there is one, as does the number
that is shown; a numeral of none or of more than there are, or of more than a word can hold (no
list that is held in memory is as long), picks nothing. A label in any case picks the first entry
with that label. Nothing else picks anything, no blank answer and not the end of the input. -/
theorem choosing_laws (origins : List Origin) :
    (∀ prompt console, ∃ heard after, source.choose prompt origins console =
        (heard.map fun said => said.bind fun answer => pick? origins answer.toList, after) ∧
      Hears (octetLines console.unread).head? heard ∧
      after.written =
        console.written ++ (String.join (origins.mapIdx menuLine) ++ prompt)) ∧
    (∀ answer n, Numeral (trim answer) n →
      (1 ≤ n → n ≤ origins.length → n ≤ numberLimit →
        ∃ h : n - 1 < origins.length, pick? origins answer = some origins[n - 1]) ∧
      (n = 0 ∨ origins.length < n ∨ numberLimit < n → pick? origins answer = none)) ∧
    (∀ answer i (h : i < origins.length), trim answer = (toString (i + 1)).toList →
      i + 1 ≤ numberLimit → pick? origins answer = some origins[i]) ∧
    (∀ answer origin, origin ∈ origins → SpelledAs origin.label (trim answer) →
      pick? origins answer = some origin ∧
        origins.find? (fun other => other.label = origin.label) = some origin) ∧
    (∀ answer, (∀ n, ¬Numeral (trim answer) n) →
      (∀ origin ∈ origins, ¬SpelledAs origin.label (trim answer)) → pick? origins answer = none) ∧
    (∀ answer, allBlank answer = true → pick? origins answer = none) ∧
    ∀ prompt console, console.unread = [] →
      (source.choose prompt origins console).1 = .ok none := by
  refine ⟨fun prompt console => ?_, fun answer n hn => ⟨pick?_of_place hn, pick?_of_no_place hn⟩,
    fun answer i hi htrim hlimit => ?_, fun answer origin => pick?_of_label,
    fun answer => pick?_of_other, fun answer => pick?_of_blank, fun prompt console hunread => ?_⟩
  · rw [← menu_eq]
    exact choose_of_console prompt origins console
  · have hnumeral : Numeral (trim answer) (i + 1) := htrim ▸ numeral_toString (i + 1)
    obtain ⟨_, hpick⟩ := pick?_of_place hnumeral (Nat.le_add_left 1 i) hi hlimit
    exact hpick
  · obtain ⟨heard, after, hchoose, hheard, -⟩ := choose_of_console prompt origins console
    rw [hunread] at hheard
    cases hheard
    rw [hchoose]
    rfl

end Promptbook.Substitution.Console
