set_option autoImplicit false

namespace Glossary

variable {α : Type} [DecidableEq α]

/-- The cost of putting `b` where `a` stood. -/
def replaceCost (a b : α) : Nat := if a = b then 0 else 1

/-- The cells of a row after its first one. Each is made from the cell above it, the one before it
and the one in the corner between them. -/
def laterCells (a : α) (corner before : Nat) : List α → List Nat → List Nat
  | b :: t, above :: row =>
    let here := min (above + 1) (min (before + 1) (corner + replaceCost a b))
    here :: laterCells a above here t row
  | _, _ => []

/-- The row of an item with the number `i`, from the row above it. -/
def nextRow (a : α) (i : Nat) (t : List α) : List Nat → List Nat
  | corner :: row => i :: laterCells a corner i t row
  | [] => []

/-- The row of the last item, from the row above the first one, which has the number `i + 1`. -/
def lastRow (t : List α) (i : Nat) (row : List Nat) : List α → List Nat
  | [] => row
  | a :: s => lastRow t (i + 1) (nextRow a (i + 1) t row) s

/-- How many single items have to be inserted, deleted or replaced to turn `s` into `t`. -/
def editDistance (s t : List α) : Nat :=
  if s.isEmpty then t.length
  else if t.isEmpty then s.length
  else (lastRow t 0 (List.range (t.length + 1)) s).getD t.length 0

/-- The distance by comparing first items: replace, delete or insert. -/
def distance : List α → List α → Nat
  | [], t => t.length
  | s, [] => s.length
  | a :: s, b :: t =>
    min (distance s t + replaceCost a b) (min (distance s (b :: t) + 1) (distance (a :: s) t + 1))
termination_by s t => s.length + t.length

theorem distance_nil_right (s : List α) : distance s [] = s.length := by
  cases s <;> simp [distance]

theorem replaceCost_comm (a b : α) : replaceCost a b = replaceCost b a := by
  simp only [replaceCost, eq_comm]

theorem distance_comm (s t : List α) : distance s t = distance t s := by
  induction s, t using distance.induct with
  | case1 t => rw [distance_nil_right, distance]
  | case2 s => rw [distance_nil_right, distance]
  | case3 a s b t replaced deleted inserted =>
      rw [distance, distance, replaced, deleted, inserted, replaceCost_comm]
      omega

theorem distance_singleton_append (a : α) (t : List α) (b : α) :
    distance [a] (t ++ [b]) =
      min (t.length + replaceCost a b) (min (t.length + 1 + 1) (distance [a] t + 1)) := by
  induction t with
  | nil => simp [distance]
  | cons c t ih =>
      rw [List.cons_append, distance, ih, distance]
      simp only [distance, List.length_append, List.length_cons, List.length_nil]
      omega

/-- The distance by comparing last items. -/
theorem distance_append_append (s t : List α) (a b : α) :
    distance (s ++ [a]) (t ++ [b]) = min (distance s t + replaceCost a b)
      (min (distance s (t ++ [b]) + 1) (distance (s ++ [a]) t + 1)) := by
  induction s, t using distance.induct with
  | case1 t =>
      rw [List.nil_append, distance_singleton_append, distance, distance, List.length_append]
      rfl
  | case2 s =>
      rw [List.nil_append, distance_comm, distance_singleton_append, distance_nil_right,
        distance_nil_right, distance_comm s, replaceCost_comm, List.length_append]
      simp only [List.length_cons, List.length_nil]
      omega
  | case3 c s d t replaced deleted inserted =>
      simp only [List.cons_append] at deleted inserted ⊢
      rw [distance, replaced, deleted, inserted, distance, distance, distance]
      -- Both sides take the least of the same nine numbers.
      simp only [← Nat.add_min_add_right]
      ac_rfl

/-- The distances from `p` to `u` and one more item of `t` each time. -/
def laterDistances (p u : List α) : List α → List Nat
  | [] => []
  | b :: t => distance p (u ++ [b]) :: laterDistances p (u ++ [b]) t

theorem laterCells_eq (p u : List α) (a : α) (t : List α) :
    laterCells a (distance p u) (distance (p ++ [a]) u) t (laterDistances p u t) =
      laterDistances (p ++ [a]) u t := by
  induction t generalizing u with
  | nil => rfl
  | cons b t ih =>
      have here : min (distance p (u ++ [b]) + 1) (min (distance (p ++ [a]) u + 1)
          (distance p u + replaceCost a b)) = distance (p ++ [a]) (u ++ [b]) := by
        rw [distance_append_append]
        omega
      simp only [laterDistances, laterCells, here, ih]

theorem nextRow_eq (p : List α) (a : α) (t : List α) :
    nextRow a (p.length + 1) t (p.length :: laterDistances p [] t) =
      (p ++ [a]).length :: laterDistances (p ++ [a]) [] t := by
  have later := laterCells_eq p [] a t
  rw [distance_nil_right, distance_nil_right] at later
  rw [nextRow, ← later, List.length_append, List.length_singleton]

/-- With the items of `p` behind it, the loop comes to the row of `p ++ s`. -/
theorem lastRow_eq (p s t : List α) :
    lastRow t p.length (p.length :: laterDistances p [] t) s =
      (p ++ s).length :: laterDistances (p ++ s) [] t := by
  induction s generalizing p with
  | nil => rw [lastRow, List.append_nil]
  | cons a s ih =>
      have rest := ih (p ++ [a])
      rw [List.length_append, List.length_singleton, List.append_assoc] at rest
      rw [lastRow, nextRow_eq, List.length_append, List.length_singleton, rest]
      rfl

theorem laterDistances_nil (u t : List α) :
    laterDistances [] u t = List.range' (u.length + 1) t.length := by
  induction t generalizing u with
  | nil => rfl
  | cons b t ih =>
      rw [laterDistances, ih, distance, List.length_append, List.length_singleton, List.length_cons,
        List.range'_succ]

theorem getD_laterDistances (p u t : List α) :
    (distance p u :: laterDistances p u t).getD t.length 0 = distance p (u ++ t) := by
  induction t generalizing u with
  | nil => rw [List.append_nil, List.length_nil, List.getD_cons_zero]
  | cons b t ih =>
      rw [List.length_cons, List.getD_cons_succ, laterDistances, ih, List.append_assoc]
      rfl

/-- The row by row computation gives the recursive distance. -/
theorem editDistance_eq_distance (s t : List α) : editDistance s t = distance s t := by
  unfold editDistance
  split
  · next none =>
      rw [List.isEmpty_iff.1 none, distance]
  · split
    · next none =>
        rw [List.isEmpty_iff.1 none, distance_nil_right]
    · have first : List.range (t.length + 1) = 0 :: laterDistances [] [] t := by
        rw [laterDistances_nil, List.range_eq_range', List.range'_succ]
        rfl
      have last := lastRow_eq [] s t
      rw [List.nil_append, List.length_nil, ← first] at last
      rw [last, ← distance_nil_right, getD_laterDistances, List.nil_append]

end Glossary
