set_option autoImplicit false

namespace Glossary

variable {α : Type}

/-- Puts an item before the first one that does not come ahead of it. -/
def insertBy (le : α → α → Bool) (x : α) : List α → List α
  | [] => [x]
  | y :: ys => if le x y then x :: y :: ys else y :: insertBy le x ys

def sortBy (le : α → α → Bool) : List α → List α
  | [] => []
  | x :: xs => insertBy le x (sortBy le xs)

theorem insertBy_perm (le : α → α → Bool) (x : α) (xs : List α) :
    List.Perm (insertBy le x xs) (x :: xs) := by
  induction xs with
  | nil => exact List.Perm.refl _
  | cons y ys ih =>
    simp only [insertBy]
    split
    · exact List.Perm.refl _
    · exact (ih.cons y).trans (List.Perm.swap x y ys)

theorem sortBy_perm (le : α → α → Bool) (xs : List α) : List.Perm (sortBy le xs) xs := by
  induction xs with
  | nil => exact List.Perm.refl _
  | cons x xs ih => exact (insertBy_perm le x _).trans (ih.cons x)

theorem mem_sortBy (le : α → α → Bool) (xs : List α) (x : α) : x ∈ sortBy le xs ↔ x ∈ xs :=
  (sortBy_perm le xs).mem_iff

theorem pairwise_insertBy {le : α → α → Bool} (total : ∀ a b, le a b = true ∨ le b a = true)
    (trans : ∀ a b c, le a b = true → le b c = true → le a c = true) (x : α) {xs : List α}
    (sorted : xs.Pairwise fun a b => le a b = true) :
    (insertBy le x xs).Pairwise fun a b => le a b = true := by
  induction xs with
  | nil => simp [insertBy]
  | cons y ys ih =>
      obtain ⟨first, rest⟩ := List.pairwise_cons.1 sorted
      simp only [insertBy]
      split
      · rename_i ahead
        refine List.pairwise_cons.2 ⟨fun z member => ?_, sorted⟩
        rcases List.mem_cons.1 member with rfl | member
        · exact ahead
        · exact trans x y z ahead (first z member)
      · rename_i behind
        refine List.pairwise_cons.2 ⟨fun z member => ?_, ih rest⟩
        rcases List.mem_cons.1 ((insertBy_perm le x ys).mem_iff.1 member) with rfl | member
        · exact (total z y).resolve_left behind
        · exact first z member

theorem pairwise_sortBy {le : α → α → Bool} (total : ∀ a b, le a b = true ∨ le b a = true)
    (trans : ∀ a b c, le a b = true → le b c = true → le a c = true) (xs : List α) :
    (sortBy le xs).Pairwise fun a b => le a b = true := by
  induction xs with
  | nil => exact List.Pairwise.nil
  | cons x xs ih => exact pairwise_insertBy total trans x ih

theorem head?_sortBy_eq_some_iff {le : α → α → Bool}
    (total : ∀ a b, le a b = true ∨ le b a = true)
    (trans : ∀ a b c, le a b = true → le b c = true → le a c = true) {xs : List α}
    (tells : ∀ a ∈ xs, ∀ b ∈ xs, le a b = true → le b a = true → a = b) {x : α} :
    (sortBy le xs).head? = some x ↔ x ∈ xs ∧ ∀ y ∈ xs, le x y = true := by
  have sorted := pairwise_sortBy total trans xs
  have same := mem_sortBy le xs
  cases list : sortBy le xs with
  | nil => simp [← same, list]
  | cons first rest =>
      rw [list] at sorted
      have ahead : ∀ y ∈ xs, le first y = true := by
        intro y member
        rw [← same, list] at member
        rcases List.mem_cons.1 member with rfl | member
        · exact (total y y).elim id id
        · exact (List.pairwise_cons.1 sorted).1 y member
      have inside : first ∈ xs := by simp [← same, list]
      rw [List.head?_cons, Option.some.injEq]
      constructor
      · rintro rfl
        exact ⟨inside, ahead⟩
      · rintro ⟨member, least⟩
        exact tells first inside x member (ahead x member) (least first inside)

/-- Lists with the same items are sorted into one list, where no two items compare equal. -/
theorem sortBy_eq_of_perm {le : α → α → Bool} (total : ∀ a b, le a b = true ∨ le b a = true)
    (trans : ∀ a b c, le a b = true → le b c = true → le a c = true) {xs ys : List α}
    (tells : ∀ a ∈ xs, ∀ b ∈ xs, le a b = true → le b a = true → a = b) (order : xs.Perm ys) :
    sortBy le xs = sortBy le ys := by
  have same : (sortBy le xs).Perm (sortBy le ys) :=
    (sortBy_perm le xs).trans (order.trans (sortBy_perm le ys).symm)
  refine same.eq_of_pairwise (fun a b inXs inYs => ?_) (pairwise_sortBy total trans xs)
    (pairwise_sortBy total trans ys)
  rw [mem_sortBy] at inXs
  rw [mem_sortBy, ← order.mem_iff] at inYs
  exact tells a inXs b inYs

theorem map_insertBy {β : Type} {f : α → β} {le : α → α → Bool} {le' : β → β → Bool}
    (same : ∀ a b, le' (f a) (f b) = le a b) (x : α) (xs : List α) :
    (insertBy le x xs).map f = insertBy le' (f x) (xs.map f) := by
  induction xs with
  | nil => rfl
  | cons y ys ih =>
      by_cases ahead : le x y = true
      · rw [insertBy, if_pos ahead, List.map_cons, List.map_cons, insertBy, same, if_pos ahead]
      · rw [insertBy, if_neg ahead, List.map_cons, ih, List.map_cons, insertBy, same,
          if_neg ahead]

/-- Where a comparison looks at images only, the images of a sorted list are sorted. -/
theorem map_sortBy {β : Type} {f : α → β} {le : α → α → Bool} {le' : β → β → Bool}
    (same : ∀ a b, le' (f a) (f b) = le a b) (xs : List α) :
    (sortBy le xs).map f = sortBy le' (xs.map f) := by
  induction xs with
  | nil => rfl
  | cons x xs ih => rw [sortBy, map_insertBy same, ih, List.map_cons, sortBy]

/-- A list in which no item that passes comes after one that does not is its two parts in turn. -/
theorem filter_append_filter_not {p : α → Bool} {xs : List α}
    (ahead : xs.Pairwise fun a b => p b = true → p a = true) :
    xs.filter p ++ xs.filter (fun x => !p x) = xs := by
  induction xs with
  | nil => rfl
  | cons x xs ih =>
      obtain ⟨first, rest⟩ := List.pairwise_cons.1 ahead
      by_cases passed : p x = true
      · rw [List.filter_cons_of_pos passed, List.filter_cons_of_neg (by simp [passed]),
          List.cons_append, ih rest]
      · have none : ∀ y ∈ xs, ¬ p y = true := fun y member passes => passed (first y member passes)
        have all : ∀ y ∈ xs, (!p y) = true := fun y member => by simpa using none y member
        rw [List.filter_cons_of_neg passed, List.filter_cons_of_pos (by simpa using passed),
          List.filter_eq_nil_iff.2 none, List.filter_eq_self.2 all, List.nil_append]

/-- A list in the order of ranks is the items of rank 0, those of rank 1 and so on. -/
theorem flatMap_filter_eq_of_pairwise {rank : α → Nat} {xs : List α}
    (ordered : xs.Pairwise fun a b => rank a ≤ rank b) (n : Nat) :
    (List.range n).flatMap (fun i => xs.filter fun x => decide (rank x = i)) =
      xs.filter fun x => decide (rank x < n) := by
  induction n with
  | zero => simp
  | succ n ih =>
      -- The items up to rank n are those of smaller ranks and, behind them, those of rank n.
      have low : (xs.filter fun x => decide (rank x < n + 1)).filter (fun x => decide (rank x < n)) =
          xs.filter fun x => decide (rank x < n) := by
        rw [List.filter_filter]
        refine List.filter_congr fun x _ => ?_
        rw [← Bool.decide_and, decide_eq_decide]
        omega
      have high : (xs.filter fun x => decide (rank x < n + 1)).filter
          (fun x => !decide (rank x < n)) = xs.filter fun x => decide (rank x = n) := by
        rw [List.filter_filter]
        refine List.filter_congr fun x _ => ?_
        rw [← decide_not, ← Bool.decide_and, decide_eq_decide]
        omega
      have parts := filter_append_filter_not (p := fun x => decide (rank x < n))
        ((ordered.filter fun x => decide (rank x < n + 1)).imp fun {a b} below passes => by
          have less : rank b < n := of_decide_eq_true passes
          exact decide_eq_true (by omega))
      rw [low, high] at parts
      rw [List.range_succ, List.flatMap_append, ih, List.flatMap_singleton, parts]

/-- Texts that occur once come out in strictly ascending order. -/
theorem pairwise_lt_sortBy {texts : List String} (distinct : texts.Nodup) :
    (sortBy (fun a b => decide (a ≤ b)) texts).Pairwise (· < ·) := by
  have ascending : (sortBy (fun a b => decide (a ≤ b)) texts).Pairwise
      fun a b => decide (a ≤ b) = true := by
    refine pairwise_sortBy (fun a b => ?_) (fun a b c first second => ?_) texts
    · simpa using String.le_total a b
    · simp only [decide_eq_true_eq] at first second ⊢
      exact String.le_trans first second
  have apart : (sortBy (fun a b => decide (a ≤ b)) texts).Nodup :=
    (sortBy_perm _ texts).nodup_iff.2 distinct
  refine (ascending.and apart).imp fun {a b} both => ?_
  have below : a ≤ b := of_decide_eq_true both.1
  exact String.not_le.1 fun above => both.2 (String.le_antisymm below above)

end Glossary
