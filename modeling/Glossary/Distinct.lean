set_option autoImplicit false

namespace Glossary

variable {α κ : Type} [DecidableEq κ]

/-- The list without the items whose key came before. -/
def distinctOn (key : α → κ) : List α → List α
  | [] => []
  | x :: xs => x :: (distinctOn key xs).filter fun y => decide (key y ≠ key x)

theorem mem_of_mem_distinctOn {key : α → κ} {xs : List α} {x : α} (h : x ∈ distinctOn key xs) :
    x ∈ xs := by
  induction xs with
  | nil => cases h
  | cons y ys ih =>
    rcases List.mem_cons.1 h with rfl | h
    · exact List.mem_cons_self
    · exact List.mem_cons_of_mem _ (ih (List.mem_filter.1 h).1)

theorem exists_mem_distinctOn (key : α → κ) {xs : List α} {x : α} (h : x ∈ xs) :
    ∃ y ∈ distinctOn key xs, key y = key x := by
  induction xs with
  | nil => cases h
  | cons y ys ih =>
    by_cases same : key x = key y
    · exact ⟨y, List.mem_cons_self, same.symm⟩
    · rcases List.mem_cons.1 h with rfl | h
      · exact absurd rfl same
      · obtain ⟨z, member, keyed⟩ := ih h
        have stays : z ∈ (distinctOn key ys).filter fun z => decide (key z ≠ key y) :=
          List.mem_filter.2 ⟨member, by simpa [keyed] using same⟩
        exact ⟨z, List.mem_cons_of_mem _ stays, keyed⟩

theorem exists_mem_distinctOn_iff {key : α → κ} {xs : List α} {k : κ} :
    (∃ x ∈ distinctOn key xs, key x = k) ↔ ∃ x ∈ xs, key x = k := by
  constructor
  · rintro ⟨x, kept, keyed⟩
    exact ⟨x, mem_of_mem_distinctOn kept, keyed⟩
  · rintro ⟨x, member, rfl⟩
    exact exists_mem_distinctOn key member

/-- Where a key tells an item there is nothing to lose. -/
theorem mem_distinctOn_iff {key : α → κ} {xs : List α} {x : α}
    (tells : ∀ y ∈ xs, ∀ z ∈ xs, key y = key z → y = z) : x ∈ distinctOn key xs ↔ x ∈ xs := by
  refine ⟨mem_of_mem_distinctOn, fun member => ?_⟩
  obtain ⟨y, kept, same⟩ := exists_mem_distinctOn key member
  rwa [tells y (mem_of_mem_distinctOn kept) x member same] at kept

/-- An item with `P` behind items with `Q` only is the first one, or the first has `Q` as well. -/
theorem exists_append_cons_iff {P Q : α → Prop} {first : α} {rest : List α} :
    (∃ before y after, first :: rest = before ++ y :: after ∧ P y ∧ ∀ z ∈ before, Q z) ↔
      P first ∨ (Q first ∧
        ∃ before y after, rest = before ++ y :: after ∧ P y ∧ ∀ z ∈ before, Q z) := by
  constructor
  · rintro ⟨before, y, after, whole, found, earlier⟩
    cases before with
    | nil =>
      obtain ⟨rfl, rfl⟩ := List.cons.inj whole
      exact Or.inl found
    | cons z before =>
      obtain ⟨rfl, rfl⟩ := List.cons.inj whole
      obtain ⟨front, others⟩ := List.forall_mem_cons.1 earlier
      exact Or.inr ⟨front, before, y, after, rfl, found, others⟩
  · rintro (found | ⟨front, before, y, after, rfl, found, others⟩)
    · exact ⟨[], first, rest, rfl, found, nofun⟩
    · exact ⟨first :: before, y, after, rfl, found, List.forall_mem_cons.2 ⟨front, others⟩⟩

/-- Of the items that are made, one is kept exactly if none before it has its key. -/
theorem mem_distinctOn_map_filter_iff {β : Type} {key : α → κ} {make : β → α} {test : β → Bool}
    {xs : List β} {x : α} :
    x ∈ distinctOn key ((xs.filter test).map make) ↔ ∃ before y after, xs = before ++ y :: after ∧
      (test y = true ∧ make y = x) ∧ ∀ z ∈ before, test z = true → key (make z) ≠ key x := by
  induction xs with
  | nil => simp [distinctOn]
  | cons first rest ih =>
    rw [exists_append_cons_iff, ← ih]
    by_cases tested : test first = true
    · rw [List.filter_cons_of_pos tested, List.map_cons, distinctOn, List.mem_cons, List.mem_filter,
        decide_eq_true_eq, and_comm (b := key x ≠ key (make first))]
      simp only [tested, true_and, true_implies, eq_comm (a := x), ne_comm (a := key x)]
    · rw [List.filter_cons_of_neg tested]
      simp [tested]

/-- No key is kept twice. -/
theorem pairwise_distinctOn (key : α → κ) (xs : List α) :
    (distinctOn key xs).Pairwise fun x y => key x ≠ key y := by
  induction xs with
  | nil => exact List.Pairwise.nil
  | cons x xs ih =>
    refine List.Pairwise.cons (fun y member => ?_) (ih.filter _)
    have := (List.mem_filter.1 member).2
    exact fun same => by simp [same] at this

theorem nodup_map_distinctOn (key : α → κ) (xs : List α) : ((distinctOn key xs).map key).Nodup :=
  List.pairwise_map.2 (pairwise_distinctOn key xs)

/-- One more item behind the others, unless one of them has its key. -/
def addOn (key : α → κ) (items : List α) (x : α) : List α :=
  if items.any fun y => decide (key x = key y) then items else items ++ [x]

/-- Adding items one by one keeps the first one with each key. -/
theorem foldl_addOn (key : α → κ) (xs items : List α) :
    xs.foldl (addOn key) items =
      items ++ (distinctOn key xs).filter fun x => !items.any fun y => decide (key x = key y) := by
  induction xs generalizing items with
  | nil => simp [distinctOn]
  | cons x xs ih =>
    rw [List.foldl_cons, ih, addOn, distinctOn, List.filter_cons, List.filter_filter]
    by_cases known : (items.any fun y => decide (key x = key y)) = true
    · -- An item like one that was kept is left out together with all that are like it.
      rw [if_pos known, if_neg (by simp [known])]
      congr 1
      apply List.filter_congr
      intro other _
      by_cases same : key other = key x
      · have alike : (items.any fun y => decide (key other = key y)) = true := by rwa [same]
        simp [alike]
      · simp [same]
    · rw [if_neg known, if_pos (by simpa using known), List.append_assoc, List.singleton_append]
      congr 2
      apply List.filter_congr
      intro other _
      simp [List.any_append]

theorem foldl_addOn_nil (key : α → κ) (xs : List α) :
    xs.foldl (addOn key) [] = distinctOn key xs := by
  rw [foldl_addOn, List.nil_append, List.filter_eq_self.2 (by simp)]

end Glossary
