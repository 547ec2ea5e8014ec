import Promptbook.Distinct
import Promptbook.Prompt.Collection

/-! What a merged collection holds.

Replacing keeps the names where they were first met and the prompts that were met last: the
names of a merged collection are those of the first one, and behind them what is new in the
second (`names_merged`), and a name finds the last prompt of the second that bears it, or else
what it found in the first (`get?_merged`). A merge only looks at names, so it goes on the same
way over prompts that were changed in anything else (`map_merged`), and it makes no prompts of
its own (`mem_merged`). -/
namespace Promptbook.Collection

/-! ### Putting one prompt -/

@[simp] theorem names_cons (prompt : Prompt) (rest : Collection) :
    names (prompt :: rest) = prompt.name :: names rest := rfl

theorem names_put (prompts : Collection) (prompt : Prompt) :
    names (put prompts prompt) =
      if prompt.name ∈ names prompts then names prompts else names prompts ++ [prompt.name] := by
  induction prompts with
  | nil => rfl
  | cons first rest ih =>
    by_cases hf : first.name = prompt.name
    · simp [put, hf]
    · rw [put, if_neg hf, names_cons, names_cons, ih]
      by_cases hm : prompt.name ∈ names rest
      · rw [if_pos hm, if_pos (List.mem_cons_of_mem _ hm)]
      · have hne : prompt.name ∉ first.name :: names rest := by simp [hm, Ne.symm hf]
        rw [if_neg hm, if_neg hne, List.cons_append]

theorem map_put {change : Prompt → Prompt} (h : ∀ p, (change p).name = p.name)
    (prompts : Collection) (prompt : Prompt) :
    (put prompts prompt).map change = put (prompts.map change) (change prompt) := by
  induction prompts with
  | nil => rfl
  | cons first rest ih =>
    simp only [put, List.map_cons, h]
    split
    · rfl
    · rw [List.map_cons, ih]

theorem mem_put {prompts : Collection} {prompt p : Prompt} (h : p ∈ put prompts prompt) :
    p = prompt ∨ p ∈ prompts := by
  induction prompts with
  | nil => exact .inl (List.mem_singleton.mp h)
  | cons first rest ih =>
    rw [put] at h
    split at h
    · exact (List.mem_cons.mp h).imp_right (List.mem_cons_of_mem _)
    · rcases List.mem_cons.mp h with rfl | h
      · exact .inr List.mem_cons_self
      · exact (ih h).imp_right (List.mem_cons_of_mem _)

/-! ### Replacing -/

/-- The names of the first collection stay where they are, and the new ones of the second
follow, each where it is met first. -/
theorem names_merged (a b : Collection) :
    names (merged a b .replace) = names a ++ (distinct (names b)).filter (· ∉ names a) := by
  induction b generalizing a with
  | nil => simp [names]
  | cons prompt rest ih =>
    rw [merged_cons, ih, names_put, names_cons, distinct]
    by_cases hm : prompt.name ∈ names a
    · rw [if_pos hm, List.filter_cons_of_neg (by simpa using hm), List.filter_filter]
      congr 1
      apply List.filter_congr
      intro name _
      -- the name that is left out is one of the first collection anyway
      by_cases hn : name = prompt.name
      · simp [hn, hm]
      · simp [hn]
    · rw [if_neg hm, List.filter_cons_of_pos (by simpa using hm), List.filter_filter,
        List.append_assoc, List.singleton_append]
      congr 2
      apply List.filter_congr
      intro name _
      simp [not_or]

/-- A name finds the last prompt of the second collection that bears it, or else what it found
in the first. -/
theorem get?_merged (a b : Collection) (name : String) :
    get? (merged a b .replace) name =
      ((b.filter (·.name = name)).getLast?).or (get? a name) := by
  induction b generalizing a with
  | nil => rfl
  | cons prompt rest ih =>
    rw [merged_cons, ih, get?_put, List.filter_cons]
    by_cases hn : prompt.name = name
    · rw [if_pos hn, if_pos (by simpa using hn), List.getLast?_cons]
      cases (rest.filter (·.name = name)).getLast? <;> rfl
    · rw [if_neg hn, if_neg (by simpa using hn)]

theorem names_nil_merged (prompts : Collection) :
    names (merged [] prompts .replace) = distinct (names prompts) := by
  rw [names_merged]
  simp [names]

theorem get?_nil_merged (prompts : Collection) (name : String) :
    get? (merged [] prompts .replace) name = (prompts.filter (·.name = name)).getLast? := by
  rw [get?_merged]
  exact Option.or_none

/-! ### Both policies -/

theorem map_merged {change : Prompt → Prompt} (h : ∀ p, (change p).name = p.name)
    (a b : Collection) (policy : MergePolicy) :
    (merged a b policy).map change = merged (a.map change) (b.map change) policy := by
  cases policy with
  | accumulate => exact List.map_append
  | replace =>
    induction b generalizing a with
    | nil => rfl
    | cons prompt rest ih => rw [merged_cons, ih, map_put h, List.map_cons, merged_cons]

theorem mem_merged {a b : Collection} {policy : MergePolicy} {p : Prompt}
    (h : p ∈ merged a b policy) : p ∈ a ∨ p ∈ b := by
  cases policy with
  | accumulate => exact List.mem_append.mp h
  | replace =>
    induction b generalizing a with
    | nil => exact .inl h
    | cons prompt rest ih =>
      rcases ih (merged_cons a prompt rest ▸ h) with hm | hm
      · rcases mem_put hm with rfl | hm
        · exact .inr List.mem_cons_self
        · exact .inl hm
      · exact .inr (List.mem_cons_of_mem _ hm)

end Promptbook.Collection
