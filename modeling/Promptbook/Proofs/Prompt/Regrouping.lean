import Mathlib.Data.List.Nodup
import Promptbook.Proofs.Prompt.Merging

/-! Where merged prompts stand, and how merges are grouped.

A merge that replaces leaves the first collection in its places. In each place stands the prompt
that stood there, but where it was the first with its name, the last prompt of the second
collection with that name stands there instead (`getElem?_merged`). Only names that were new are
added behind.

Merges can be grouped either way if no name comes twice in the collection in the middle
(`merged_assoc`). The point of it is one prompt that is put in at the end: it can as well be put
into the middle collection before (`put_merged`), since a later prompt of the same name takes the
same place (`put_put_of_eq`), and one of another name a place of its own (`put_put_of_ne`). -/
namespace Promptbook.Collection

/-! ### Places -/

section
variable {prompts : Collection} {p : Prompt} {i : Nat}

/-- A prompt takes the place of the first one with its name, and of no other. -/
theorem getElem?_put (h : prompts[i]? = some p) (prompt : Prompt) :
    (put prompts prompt)[i]? =
      some (if prompt.name = p.name ∧ p.name ∉ names (prompts.take i) then prompt else p) := by
  induction prompts generalizing i with
  | nil => cases h
  | cons first rest ih =>
    cases i with
    | zero =>
      obtain rfl := Option.some.inj h
      by_cases hf : first.name = prompt.name
      · simp [put, hf, names]
      · simp [put, hf, Ne.symm hf]
    | succ i =>
      have hrest : rest[i]? = some p := h
      by_cases hf : first.name = prompt.name
      · have hearlier : prompt.name = p.name → p.name ∈ names ((first :: rest).take (i + 1)) := by
          intro he
          rw [← he, ← hf]
          exact List.mem_cons_self
        rw [put, if_pos hf, if_neg fun hc => hc.2 (hearlier hc.1), List.getElem?_cons_succ, hrest]
      · have hskip : (prompt.name = p.name ∧ p.name ∉ names ((first :: rest).take (i + 1))) ↔
            (prompt.name = p.name ∧ p.name ∉ names (rest.take i)) := by
          refine and_congr_right fun he => not_congr ?_
          rw [List.take_succ_cons, names_cons, List.mem_cons, ← he, or_iff_right (Ne.symm hf)]
        rw [put, if_neg hf, List.getElem?_cons_succ, ih hrest]
        simp only [hskip]

theorem names_take_put (h : i ≤ prompts.length) (prompt : Prompt) :
    names ((put prompts prompt).take i) = names (prompts.take i) := by
  have hlength : i ≤ (names prompts).length := by rwa [names, List.length_map]
  have htake (prompts : Collection) : names (prompts.take i) = (names prompts).take i :=
    List.map_take
  rw [htake, htake, names_put]
  split
  · rfl
  · rw [List.take_append_of_le_length hlength]

/-- **What stands where a prompt of the first collection stood.** -/
theorem getElem?_merged {a : Collection} (h : a[i]? = some p) (b : Collection) :
    (merged a b .replace)[i]? =
      if p.name ∈ names (a.take i) then some p
      else ((b.filter (·.name = p.name)).getLast?).or (some p) := by
  induction b generalizing a p with
  | nil => simp [merged, h]
  | cons prompt rest ih =>
    have hlength := Nat.le_of_lt (List.getElem?_eq_some_iff.mp h).1
    have hput := getElem?_put h prompt
    rw [merged_cons, ih hput, names_take_put hlength, List.filter_cons]
    by_cases hname : prompt.name = p.name
    · by_cases hearlier : p.name ∈ names (a.take i)
      · simp [hearlier]
      · simp only [hname, hearlier, not_false_eq_true, and_self, if_true, if_false, decide_true,
          List.getLast?_cons]
        cases (rest.filter (·.name = p.name)).getLast? <;> rfl
    · simp [hname]

end

theorem nodup_names_merged {a : Collection} (h : (names a).Nodup) (b : Collection) :
    (names (merged a b .replace)).Nodup := by
  rw [names_merged]
  refine List.Nodup.append h ((nodup_distinct _).filter _) fun name ha hb => ?_
  have hnew := (List.mem_filter.mp hb).2
  exact absurd ha (by simpa using hnew)

/-! ### Two prompts -/

section
variable {p q : Prompt}

/-- Of two prompts with one name only the second is left. -/
theorem put_put_of_eq (h : q.name = p.name) (prompts : Collection) :
    put (put prompts q) p = put prompts p := by
  induction prompts with
  | nil => simp [put, h]
  | cons first rest ih =>
    by_cases hf : first.name = p.name
    · simp [put, h, hf]
    · simp [put, h, hf, ih]

/-- Two prompts with different names can be put in either order, if one of them has a place. -/
theorem put_put_of_ne (h : p.name ≠ q.name) {prompts : Collection} (hp : p.name ∈ names prompts) :
    put (put prompts q) p = put (put prompts p) q := by
  induction prompts with
  | nil => cases hp
  | cons first rest ih =>
    by_cases hfq : first.name = q.name
    · simp [put, hfq, Ne.symm h]
    · by_cases hfp : first.name = p.name
      · simp [put, hfp, h]
      · have hrest : p.name ∈ names rest := (List.mem_cons.mp hp).resolve_left (Ne.symm hfp)
        simp [put, hfp, hfq, ih hrest]

/-- A prompt that has a place can be put before a merge that does not know its name. -/
theorem put_merged_of_not_mem {a b : Collection} (ha : p.name ∈ names a) (hb : p.name ∉ names b) :
    put (merged a b .replace) p = merged (put a p) b .replace := by
  induction b generalizing a with
  | nil => rfl
  | cons q rest ih =>
    rw [names_cons, List.mem_cons, not_or] at hb
    have hkept : p.name ∈ names (put a q) := by
      rw [names_put]
      split
      · exact ha
      · exact List.mem_append_left _ ha
    rw [merged_cons, merged_cons, ih hkept hb.2, put_put_of_ne hb.1 ha]

end

/-! ### Three collections -/

/-- **A prompt behind a merge can be put into the second collection before**, if that has no name
twice. -/
theorem put_merged {b : Collection} (hb : (names b).Nodup) (a : Collection) (p : Prompt) :
    put (merged a b .replace) p = merged a (put b p) .replace := by
  induction b generalizing a with
  | nil => rfl
  | cons q rest ih =>
    rw [names_cons, List.nodup_cons] at hb
    by_cases hq : q.name = p.name
    · have hplace : p.name ∈ names (put a q) := by
        rw [← hq, names_put]
        split
        · assumption
        · exact List.mem_concat_self
      rw [put, if_pos hq, merged_cons, merged_cons, put_merged_of_not_mem hplace (hq ▸ hb.1),
        put_put_of_eq hq]
    · rw [put, if_neg hq, merged_cons, merged_cons, ih hb.2]

/-- **Merges can be grouped either way**, if no name comes twice in the collection in the
middle. -/
theorem merged_assoc {b : Collection} (hb : (names b).Nodup) (a c : Collection) :
    merged (merged a b .replace) c .replace = merged a (merged b c .replace) .replace := by
  -- The prompts of the last collection go into the middle one, one after another.
  induction c generalizing b with
  | nil => rfl
  | cons p rest ih =>
    have hput : (names (put b p)).Nodup := nodup_names_merged hb [p]
    rw [merged_cons, merged_cons, put_merged hb, ih hput]

/-- A name that comes twice in the middle is not left to the end by the one grouping, but is by
the other. -/
example :
    let one : Prompt := { name := "A", body := "1" }
    let two : Prompt := { name := "A", body := "2" }
    let three : Prompt := { name := "A", body := "3" }
    merged (merged [] [one, two] .replace) [three] .replace = [three] ∧
      merged [] (merged [one, two] [three] .replace) .replace = [two] := by
  decide

/-- **The laws of merging.** Replacing, the names of the first collection stay as they are, and
the new ones of the second follow, each once and where it is met first. A name finds the last
prompt of the second collection that bears it, or else what it found in the first. What is not
the first of a name that comes again stays in its place. Names that were all different stay so,
and merges can be grouped either way if those in the middle are all different. Accumulating, all
prompts are kept in order, however they are grouped, and a name finds what it found in the first
collection, or else in the second. -/
theorem merging_laws (a b c : Collection) :
    (names (merged a b .replace) = names a ++ (distinct (names b)).filter (· ∉ names a) ∧
      (∀ name, get? (merged a b .replace) name =
        ((b.filter (·.name = name)).getLast?).or (get? a name)) ∧
      (∀ i p, a[i]? = some p → ¬(p.name ∈ names b ∧ p.name ∉ names (a.take i)) →
        (merged a b .replace)[i]? = some p) ∧
      ((names a).Nodup → (names (merged a b .replace)).Nodup) ∧
      ((names b).Nodup → merged (merged a b .replace) c .replace =
        merged a (merged b c .replace) .replace)) ∧
    (merged (merged a b .accumulate) c .accumulate = merged a (merged b c .accumulate) .accumulate ∧
      merged a b .accumulate = a ++ b ∧
      ∀ name, get? (merged a b .accumulate) name = (get? a name).or (get? b name)) := by
  refine ⟨⟨names_merged a b, get?_merged a b, fun i p hp hstays => ?_,
    fun ha => nodup_names_merged ha b, fun hb => merged_assoc hb a c⟩,
    List.append_assoc a b c, rfl, fun _ => List.find?_append⟩
  rw [getElem?_merged hp]
  split
  · rfl
  · next hfirst =>
    have hnone : b.filter (·.name = p.name) = [] := by
      rw [List.filter_eq_nil_iff]
      intro q hq hname
      refine hstays ⟨?_, hfirst⟩
      rw [← of_decide_eq_true hname]
      exact List.mem_map_of_mem hq
    rw [hnone]
    rfl

/-- Prompts of one letter, of which the first collection has one twice. -/
theorem merging_laws_letters :
    let a : Collection := [⟨"A", "1", none, none, none, .empty, none⟩,
      ⟨"B", "2", none, none, none, .empty, none⟩, ⟨"A", "3", none, none, none, .empty, none⟩]
    let b : Collection := [⟨"A", "4", none, none, none, .empty, none⟩,
      ⟨"C", "5", none, none, none, .empty, none⟩]
    let c : Collection := [⟨"C", "6", none, none, none, .empty, none⟩,
      ⟨"A", "7", none, none, none, .empty, none⟩]
    (names b).Nodup ∧
      (merged a b .replace)[2]? = some ⟨"A", "3", none, none, none, .empty, none⟩ ∧
      names (merged a b .replace) = ["A", "B", "A", "C"] ∧
      merged (merged a b .replace) c .replace = merged a (merged b c .replace) .replace := by
  intro a b c
  have hnames : (names b).Nodup := by decide
  obtain ⟨⟨hmerged, -, hstays, -, hassoc⟩, -⟩ := merging_laws a b c
  exact ⟨hnames, hstays 2 _ rfl (by decide), hmerged.trans (by decide), hassoc hnames⟩

end Promptbook.Collection
