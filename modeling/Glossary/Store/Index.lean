set_option autoImplicit false

namespace Glossary

/-- Keys with their values, in the order of arrival. -/
structure Index (α : Type) where
  rows : List (String × α) := []

namespace Index

variable {α : Type}

def find? (key : String) : List (String × α) → Option α
  | [] => none
  | (k, v) :: rest => if k = key then some v else find? key rest

/-- The rows with the value under the key replaced, or with a new row at the end. -/
def update (key : String) (value : α) : List (String × α) → List (String × α)
  | [] => [(key, value)]
  | (k, v) :: rest => if k = key then (k, value) :: rest else (k, v) :: update key value rest

def get? (ix : Index α) (key : String) : Option α := find? key ix.rows

def has (ix : Index α) (key : String) : Bool := (ix.get? key).isSome

def put (ix : Index α) (key : String) (value : α) : Index α := ⟨update key value ix.rows⟩

def erase (ix : Index α) (key : String) : Index α := ⟨ix.rows.filter fun r => decide (r.1 ≠ key)⟩

def keys (ix : Index α) : List String := ix.rows.map (·.1)

def values (ix : Index α) : List α := ix.rows.map (·.2)

theorem find?_update_self (key : String) (value : α) (rows : List (String × α)) :
    find? key (update key value rows) = some value := by
  induction rows with
  | nil => simp [update, find?]
  | cons r rest ih =>
    simp only [update]
    split
    · next h => simp [find?, h]
    · next h => simp [find?, h, ih]

theorem find?_update_other {key other : String} (h : other ≠ key) (value : α)
    (rows : List (String × α)) : find? other (update key value rows) = find? other rows := by
  induction rows with
  | nil => simp [update, find?, h.symm]
  | cons r rest ih =>
    simp only [update]
    split
    · next same => simp [find?, same, h.symm]
    · simp [find?, ih]

@[simp] theorem get?_put_self (ix : Index α) (key : String) (value : α) :
    (ix.put key value).get? key = some value := find?_update_self key value ix.rows

theorem get?_put_other (ix : Index α) {key other : String} (h : other ≠ key) (value : α) :
    (ix.put key value).get? other = ix.get? other := find?_update_other h value ix.rows

theorem find?_append {key : String} {rows : List (String × α)}
    (absent : ∀ r ∈ rows, r.1 ≠ key) (more : List (String × α)) :
    find? key (rows ++ more) = find? key more := by
  induction rows with
  | nil => rfl
  | cons r rest ih =>
      rw [List.cons_append, find?, if_neg (absent r List.mem_cons_self)]
      exact ih fun q member => absent q (List.mem_cons_of_mem r member)

theorem update_append {key : String} {rows : List (String × α)}
    (absent : ∀ r ∈ rows, r.1 ≠ key) (value : α) (more : List (String × α)) :
    update key value (rows ++ more) = rows ++ update key value more := by
  induction rows with
  | nil => rfl
  | cons r rest ih =>
      rw [List.cons_append, update, if_neg (absent r List.mem_cons_self),
        ih fun q member => absent q (List.mem_cons_of_mem r member), List.cons_append]

theorem update_of_absent {key : String} {rows : List (String × α)}
    (absent : ∀ r ∈ rows, r.1 ≠ key) (value : α) :
    update key value rows = rows ++ [(key, value)] := by
  have whole := update_append absent value []
  rwa [List.append_nil] at whole

theorem find?_map {β : Type} (key : String) (keyOf : β → String) (valueOf : β → α) (xs : List β) :
    find? key (xs.map fun x => (keyOf x, valueOf x)) =
      (xs.find? fun x => decide (keyOf x = key)).map valueOf := by
  induction xs with
  | nil => rfl
  | cons x rest ih =>
      rw [List.map_cons, find?, List.find?_cons, ih]
      by_cases same : keyOf x = key <;> simp [same]

@[simp] theorem get?_erase_self (ix : Index α) (key : String) : (ix.erase key).get? key = none := by
  have absent : ∀ r ∈ ix.rows.filter fun r => decide (r.1 ≠ key), r.1 ≠ key := fun r member =>
    of_decide_eq_true (List.mem_filter.1 member).2
  have whole := find?_append absent []
  rwa [List.append_nil] at whole

theorem get?_erase_other (ix : Index α) {key other : String} (differ : other ≠ key) :
    (ix.erase key).get? other = ix.get? other := by
  unfold get? erase
  induction ix.rows with
  | nil => rfl
  | cons r rest ih =>
      rw [List.filter_cons]
      by_cases same : r.1 = key
      · rw [if_neg (by simp [same]), ih, find?, if_neg fun found => differ (found.symm.trans same)]
      · rw [if_pos (by simp [same]), find?, find?, ih]

/-- A key is there exactly if it has a value. -/
theorem mem_keys_iff (ix : Index α) (key : String) :
    key ∈ ix.keys ↔ ∃ value, ix.get? key = some value := by
  unfold keys get?
  induction ix.rows with
  | nil => simp [find?]
  | cons r rest ih =>
      rw [List.map_cons, List.mem_cons, find?, ih]
      by_cases same : r.1 = key
      · simp [same]
      · simp [same, Ne.symm same]

/-- Where no key comes twice, each row is found by its key. -/
theorem get?_eq_some_iff {ix : Index α} (distinct : ix.keys.Nodup) (key : String) (value : α) :
    ix.get? key = some value ↔ (key, value) ∈ ix.rows := by
  obtain ⟨rows⟩ := ix
  unfold get?
  induction rows with
  | nil => simp [find?]
  | cons r rest ih =>
      rw [keys, List.map_cons, List.nodup_cons] at distinct
      rw [find?, List.mem_cons]
      by_cases same : r.1 = key
      · have behind : (key, value) ∉ rest := fun member =>
          distinct.1 (same ▸ List.mem_map_of_mem member)
        subst same
        rw [if_pos rfl, Option.some.injEq, or_iff_left behind, Prod.ext_iff, eq_comm]
        simp
      · have front : (key, value) ≠ r := fun whole => same (congrArg Prod.fst whole).symm
        rw [if_neg same, ih distinct.2, or_iff_right front]

/-- A known key keeps its place, and a new one comes last. -/
theorem keys_put (ix : Index α) (key : String) (value : α) :
    (ix.put key value).keys = if key ∈ ix.keys then ix.keys else ix.keys ++ [key] := by
  unfold keys put
  induction ix.rows with
  | nil => simp [update]
  | cons r rest ih =>
      rw [update, List.map_cons]
      by_cases same : r.1 = key
      · simp [same]
      · simp only [if_neg same, List.map_cons, ih, List.mem_cons, Ne.symm same, false_or]
        split <;> rfl

theorem keys_erase (ix : Index α) (key : String) :
    (ix.erase key).keys = ix.keys.filter fun k => decide (k ≠ key) := by
  rw [keys, erase, keys, List.filter_map]
  rfl

theorem nodup_keys_put {ix : Index α} (distinct : ix.keys.Nodup) (key : String) (value : α) :
    (ix.put key value).keys.Nodup := by
  rw [keys_put]
  split
  · exact distinct
  · rename_i new
    refine List.nodup_append.2 ⟨distinct, by simp, ?_⟩
    rintro k known other single rfl
    exact new (List.mem_singleton.1 single ▸ known)

theorem nodup_keys_erase {ix : Index α} (distinct : ix.keys.Nodup) (key : String) :
    (ix.erase key).keys.Nodup := by
  rw [keys_erase]
  exact distinct.filter _

end Index

end Glossary
