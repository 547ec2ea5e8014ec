/-! Settings that a prompt hands to its model.

A collection of settings holds each key once and keeps its pairs in ascending order
of the keys, code point by code point. Setting a key again replaces its value, so two
collections with the same settings are the same list. -/
namespace Promptbook

/-- Settings by key. -/
structure Options where
  /-- The pairs of key and value, in ascending order of the keys. -/
  toList : List (String × String) := []
  ascending : toList.Pairwise (fun a b => a.1 < b.1) := by simp
  deriving DecidableEq

namespace Options

/-- The pairs with one more, in its place; an earlier pair of that key is replaced. -/
def insertPair (key value : String) : List (String × String) → List (String × String)
  | [] => [(key, value)]
  | (k, v) :: rest =>
    if key < k then (key, value) :: (k, v) :: rest
    else if key = k then (key, value) :: rest
    else (k, v) :: insertPair key value rest

theorem mem_insertPair {key value : String} {pairs : List (String × String)} {p : String × String}
    (h : p ∈ insertPair key value pairs) : p = (key, value) ∨ p ∈ pairs := by
  induction pairs with
  | nil => simpa [insertPair] using h
  | cons q rest ih =>
    obtain ⟨k, v⟩ := q
    simp only [insertPair] at h
    split at h
    · simpa using h
    · split at h
      · rcases List.mem_cons.mp h with h | h
        · exact .inl h
        · exact .inr (List.mem_cons_of_mem _ h)
      · rcases List.mem_cons.mp h with h | h
        · exact .inr (h ▸ List.mem_cons_self)
        · exact (ih h).imp_right (List.mem_cons_of_mem _)

theorem ascending_insertPair (key value : String) {pairs : List (String × String)}
    (h : pairs.Pairwise (fun a b => a.1 < b.1)) :
    (insertPair key value pairs).Pairwise (fun a b => a.1 < b.1) := by
  induction pairs with
  | nil => simp [insertPair]
  | cons q rest ih =>
    obtain ⟨k, v⟩ := q
    obtain ⟨hk, hrest⟩ := List.pairwise_cons.mp h
    simp only [insertPair]
    split
    · next hlt =>
      refine List.pairwise_cons.mpr ⟨?_, h⟩
      intro p hp
      rcases List.mem_cons.mp hp with rfl | hp
      · exact hlt
      · exact String.lt_trans hlt (hk p hp)
    · split
      · next heq =>
        subst heq
        exact List.pairwise_cons.mpr ⟨hk, hrest⟩
      · next hlt hne =>
        refine List.pairwise_cons.mpr ⟨?_, ih hrest⟩
        intro p hp
        rcases mem_insertPair hp with rfl | hp
        · grind
        · exact hk p hp

/-- The settings with one more; an earlier value of that key is replaced. -/
def insert (options : Options) (key value : String) : Options :=
  ⟨insertPair key value options.toList, ascending_insertPair key value options.ascending⟩

/-- No settings at all. -/
def empty : Options := {}

/-- The settings of a list of pairs, of which later ones win. -/
def ofList (pairs : List (String × String)) : Options :=
  pairs.foldl (fun options p => options.insert p.1 p.2) empty

/-- The value of a key. -/
def get? (options : Options) (key : String) : Option String := options.toList.lookup key

def isEmpty (options : Options) : Bool := options.toList.isEmpty

instance : Inhabited Options := ⟨empty⟩

/-! ### Small facts -/

@[ext] theorem ext {a b : Options} (h : a.toList = b.toList) : a = b := by
  cases a
  cases b
  simp_all

@[simp] theorem toList_empty : empty.toList = [] := rfl

@[simp] theorem toList_insert (options : Options) (key value : String) :
    (options.insert key value).toList = insertPair key value options.toList := rfl

theorem lookup_insertPair (key value k : String) (pairs : List (String × String)) :
    (insertPair key value pairs).lookup k =
      if k = key then some value else pairs.lookup k := by
  induction pairs with
  | nil => by_cases h : k = key <;> simp [insertPair, List.lookup_cons, h, beq_eq_false_iff_ne.mpr]
  | cons q rest ih =>
    obtain ⟨k', v⟩ := q
    simp only [insertPair]
    by_cases h : k = key
    · subst h
      split
      · simp
      · split
        · simp
        · next hne => simp [List.lookup_cons, beq_eq_false_iff_ne.mpr hne, ih]
    · have hk : (k == key) = false := beq_eq_false_iff_ne.mpr h
      split
      · simp [List.lookup_cons, hk]
      · split
        · next heq =>
          subst heq
          simp [List.lookup_cons, hk]
        · simp [List.lookup_cons, ih, h]

theorem get?_insert (options : Options) (key value k : String) :
    (options.insert key value).get? k = if k = key then some value else options.get? k :=
  lookup_insertPair key value k options.toList

theorem lookup_eq_none_of_lt {key : String} {pairs : List (String × String)}
    (h : ∀ p ∈ pairs, key < p.1) : pairs.lookup key = none := by
  rw [List.lookup_eq_none_iff]
  intro p hp
  have hlt := h p hp
  exact bne_iff_ne.mpr fun e => by
    rw [e] at hlt
    exact String.lt_irrefl p.1 hlt

/-- A key that is looked up comes no earlier than the first one. -/
theorem not_lt_of_lookup {key first value : String} {v : String} {rest : List (String × String)}
    (hrest : ∀ p ∈ rest, first < p.1) (h : ((first, value) :: rest).lookup key = some v) :
    ¬key < first := by
  intro hlt
  have hnone : ((first, value) :: rest).lookup key = none := by
    apply lookup_eq_none_of_lt
    intro p hp
    rcases List.mem_cons.mp hp with rfl | hp
    · exact hlt
    · exact String.lt_trans hlt (hrest p hp)
  rw [hnone] at h
  cases h

/-- Ascending pairs in which every key has the same value are the same. -/
theorem eq_of_lookup {a b : List (String × String)} (ha : a.Pairwise (fun p q => p.1 < q.1))
    (hb : b.Pairwise (fun p q => p.1 < q.1)) (h : ∀ key, a.lookup key = b.lookup key) : a = b := by
  induction a generalizing b with
  | nil =>
    cases b with
    | nil => rfl
    | cons q rest =>
      have hq := h q.1
      rw [List.lookup_nil, List.lookup_cons_self] at hq
      cases hq
  | cons p rest ih =>
    obtain ⟨k, v⟩ := p
    cases b with
    | nil =>
      have hp := h k
      rw [List.lookup_nil, List.lookup_cons_self] at hp
      cases hp
    | cons q rest' =>
      obtain ⟨k', v'⟩ := q
      obtain ⟨hk, hrest⟩ := List.pairwise_cons.mp ha
      obtain ⟨hk', hrest'⟩ := List.pairwise_cons.mp hb
      have hhead := h k
      have hhead' := h k'
      rw [List.lookup_cons_self] at hhead hhead'
      -- each first key is looked up on the other side
      obtain rfl : k = k' := String.le_antisymm
        (String.not_lt.mp (not_lt_of_lookup hk hhead'))
        (String.not_lt.mp (not_lt_of_lookup hk' hhead.symm))
      rw [List.lookup_cons_self] at hhead
      obtain rfl := Option.some.inj hhead
      congr 1
      refine ih hrest hrest' fun key => ?_
      by_cases hkey : key = k
      · rw [hkey, lookup_eq_none_of_lt hk, lookup_eq_none_of_lt hk']
      · have hother := h key
        rwa [List.lookup_cons, List.lookup_cons, beq_eq_false_iff_ne.mpr hkey] at hother

/-- **Settings in which every key has the same value are the same.** -/
theorem ext_get? {a b : Options} (h : ∀ key, a.get? key = b.get? key) : a = b :=
  ext (eq_of_lookup a.ascending b.ascending h)

/-- A pair whose key comes after all others is added at the end. -/
theorem insertPair_last {key : String} {pairs : List (String × String)}
    (h : ∀ p ∈ pairs, p.1 < key) (value : String) :
    insertPair key value pairs = pairs ++ [(key, value)] := by
  induction pairs with
  | nil => rfl
  | cons q rest ih =>
    obtain ⟨k, v⟩ := q
    have hk : k < key := h _ List.mem_cons_self
    have hlt : ¬key < k := String.lt_asymm hk
    have hne : key ≠ k := fun e => String.lt_irrefl k (e ▸ hk)
    rw [insertPair, if_neg hlt, if_neg hne, ih fun p hp => h p (List.mem_cons_of_mem _ hp)]
    rfl

theorem toList_foldl_insert (rest : List (String × String)) (options : Options)
    (h : (options.toList ++ rest).Pairwise (fun a b => a.1 < b.1)) :
    (rest.foldl (fun options p => options.insert p.1 p.2) options).toList =
      options.toList ++ rest := by
  induction rest generalizing options with
  | nil => simp
  | cons p rest ih =>
    have hlast : (options.insert p.1 p.2).toList = options.toList ++ [p] := by
      rw [toList_insert, insertPair_last]
      intro q hq
      exact (List.pairwise_append.mp h).2.2 q hq p List.mem_cons_self
    have hrest : ((options.insert p.1 p.2).toList ++ rest).Pairwise (fun a b => a.1 < b.1) := by
      rwa [hlast, List.append_assoc]
    rw [List.foldl_cons, ih _ hrest, hlast, List.append_assoc]
    rfl

/-- Settings are the settings of their pairs. -/
theorem ofList_toList (options : Options) : ofList options.toList = options := by
  apply ext
  exact toList_foldl_insert options.toList empty options.ascending

end Options
end Promptbook
