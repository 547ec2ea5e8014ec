/-! Lists without repetitions. -/
namespace Promptbook

/-- A list without repetitions, in order of first occurrence. -/
def distinct [DecidableEq α] : List α → List α
  | [] => []
  | a :: rest => a :: (distinct rest).filter (· ≠ a)

@[simp] theorem distinct_nil [DecidableEq α] : distinct ([] : List α) = [] := rfl

theorem mem_distinct [DecidableEq α] {a : α} {l : List α} : a ∈ distinct l ↔ a ∈ l := by
  induction l with
  | nil => simp
  | cons b rest ih => by_cases h : a = b <;> simp [distinct, ih, h]

theorem nodup_distinct [DecidableEq α] (l : List α) : (distinct l).Nodup := by
  induction l with
  | nil => simp
  | cons b rest ih => exact List.nodup_cons.mpr ⟨by simp, ih.filter _⟩

theorem distinct_filter [DecidableEq α] (keep : α → Bool) (l : List α) :
    distinct (l.filter keep) = (distinct l).filter keep := by
  induction l with
  | nil => rfl
  | cons b rest ih =>
    cases h : keep b with
    | true => simp [distinct, h, ih, List.filter_filter, Bool.and_comm]
    | false =>
      rw [List.filter_cons_of_neg (by simp [h]), ih, distinct,
        List.filter_cons_of_neg (by simp [h]), List.filter_filter]
      apply List.filter_congr
      intro a _
      by_cases hab : a = b
      · simp [hab, h]
      · simp [hab]

end Promptbook
