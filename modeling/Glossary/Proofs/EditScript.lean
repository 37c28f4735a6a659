import Glossary.Proofs.EditDistance

set_option autoImplicit false

namespace Glossary

/-- One edit of a list at a place: an item is put in, taken out or replaced. -/
inductive Edit (α : Type) where
  | insert (place : Nat) (item : α)
  | delete (place : Nat)
  | replace (place : Nat) (item : α)
  deriving DecidableEq, Repr

namespace Edit

variable {α : Type}

/-- The list after the edit, if it has the place. -/
def perform? : Edit α → List α → Option (List α)
  | insert place item, s => if place ≤ s.length then some (s.insertIdx place item) else none
  | delete place, s => if place < s.length then some (s.eraseIdx place) else none
  | replace place item, s => if place < s.length then some (s.set place item) else none

def run? : List (Edit α) → List α → Option (List α)
  | [], s => some s
  | e :: rest, s => (e.perform? s).bind (run? rest)

/-- The edit one place further back. -/
def later : Edit α → Edit α
  | insert place item => insert (place + 1) item
  | delete place => delete (place + 1)
  | replace place item => replace (place + 1) item

/-- Some script of that many edits turns `s` into `t`. -/
def Turns (n : Nat) (s t : List α) : Prop :=
  ∃ script : List (Edit α), script.length = n ∧ run? script s = some t

theorem front_or_later (e : Edit α) :
    (∃ item, e = insert 0 item) ∨ e = delete 0 ∨ (∃ item, e = replace 0 item) ∨
      ∃ inner : Edit α, e = inner.later := by
  rcases e with ⟨_ | place, item⟩ | ⟨_ | place⟩ | ⟨_ | place, item⟩
  · exact Or.inl ⟨item, rfl⟩
  · exact Or.inr (Or.inr (Or.inr ⟨insert place item, rfl⟩))
  · exact Or.inr (Or.inl rfl)
  · exact Or.inr (Or.inr (Or.inr ⟨delete place, rfl⟩))
  · exact Or.inr (Or.inr (Or.inl ⟨item, rfl⟩))
  · exact Or.inr (Or.inr (Or.inr ⟨replace place item, rfl⟩))

theorem perform?_later (e : Edit α) (first : α) (s : List α) :
    e.later.perform? (first :: s) = (e.perform? s).map (first :: ·) := by
  cases e <;> simp only [later, perform?, List.length_cons, Nat.add_le_add_iff_right,
    Nat.add_lt_add_iff_right] <;> split <;> rfl

theorem run?_later (script : List (Edit α)) (first : α) (s : List α) :
    run? (script.map later) (first :: s) = (run? script s).map (first :: ·) := by
  induction script generalizing s with
  | nil => rfl
  | cons e rest ih =>
      rw [List.map_cons, run?, run?, perform?_later]
      cases e.perform? s with
      | none => rfl
      | some t => exact ih t

theorem run?_append (script rest : List (Edit α)) (s : List α) :
    run? (script ++ rest) s = (run? script s).bind (run? rest) := by
  induction script generalizing s with
  | nil => rfl
  | cons e script ih =>
      rw [List.cons_append, run?, run?]
      cases e.perform? s with
      | none => rfl
      | some t => exact ih t

theorem turns_refl (s : List α) : Turns 0 s s := ⟨[], rfl, rfl⟩

theorem Turns.one {e : Edit α} {s t : List α} (step : e.perform? s = some t) : Turns 1 s t :=
  ⟨[e], rfl, by rw [run?, step]; rfl⟩

theorem Turns.trans {m n : Nat} {s t u : List α} (first : Turns m s t) (second : Turns n t u) :
    Turns (m + n) s u := by
  obtain ⟨script, rfl, run⟩ := first
  obtain ⟨rest, rfl, runRest⟩ := second
  exact ⟨script ++ rest, List.length_append, by rw [run?_append, run]; exact runRest⟩

/-- What can be done to a list can be done behind one more item. -/
theorem Turns.behind {n : Nat} {s t : List α} (turns : Turns n s t) (first : α) :
    Turns n (first :: s) (first :: t) := by
  obtain ⟨script, rfl, run⟩ := turns
  exact ⟨script.map later, List.length_map _, by rw [run?_later, run]; rfl⟩

theorem turns_insert (item : α) (s : List α) : Turns 1 s (item :: s) :=
  Turns.one (e := insert 0 item) rfl

theorem turns_delete (item : α) (s : List α) : Turns 1 (item :: s) s :=
  Turns.one (e := delete 0) rfl

theorem turns_replace (old item : α) (s : List α) : Turns 1 (old :: s) (item :: s) :=
  Turns.one (e := replace 0 item) rfl

theorem turns_of_nil (t : List α) : Turns t.length [] t := by
  induction t with
  | nil => exact turns_refl []
  | cons item t ih => exact ih.trans (turns_insert item t)

theorem turns_to_nil (s : List α) : Turns s.length s [] := by
  induction s with
  | nil => exact turns_refl []
  | cons item s ih =>
      have emptied := (turns_delete item s).trans ih
      rwa [Nat.add_comm] at emptied

theorem turns_min {m n : Nat} {s t : List α} (first : Turns m s t) (second : Turns n s t) :
    Turns (min m n) s t := by
  rcases Nat.le_total m n with least | above
  · rwa [Nat.min_eq_left least]
  · rwa [Nat.min_eq_right above]

variable [DecidableEq α]

theorem turns_front (a b : α) (s : List α) : Turns (replaceCost a b) (a :: s) (b :: s) := by
  by_cases same : a = b
  · rw [same, replaceCost, if_pos rfl]
    exact turns_refl (b :: s)
  · rw [replaceCost, if_neg same]
    exact turns_replace a b s

/-- As many edits as the distance are enough: each way to the distance is a way to go on with a
script for shorter lists. -/
theorem turns_distance (s t : List α) : Turns (distance s t) s t := by
  induction s, t using distance.induct with
  | case1 t =>
      rw [distance]
      exact turns_of_nil t
  | case2 s =>
      rw [distance_nil_right]
      exact turns_to_nil s
  | case3 a s b t replaced deleted inserted =>
      rw [distance]
      refine turns_min ?_ (turns_min ?_ ?_)
      · exact (replaced.behind a).trans (turns_front a b t)
      · have first := (turns_delete a s).trans deleted
        rwa [Nat.add_comm] at first
      · exact inserted.trans (turns_insert b t)

/-- `s` is at most by one farther from any list than `s'` is. -/
def Near (s s' : List α) : Prop := ∀ t, distance s t ≤ distance s' t + 1

theorem near_delete (a : α) (s : List α) : Near (a :: s) s := by
  intro t
  rw [distance_comm, distance_comm s]
  exact distance_le_cons t a s

theorem near_insert (a : α) (s : List α) : Near s (a :: s) := by
  intro t
  induction t with
  | nil =>
      rw [distance_nil_right, distance_nil_right, List.length_cons]
      omega
  | cons b t ih =>
      have farther := distance_le_cons s b t
      rw [distance.eq_3]
      omega

theorem near_replace (a b : α) (s : List α) : Near (a :: s) (b :: s) := by
  intro t
  induction t with
  | nil =>
      rw [distance_nil_right, distance_nil_right, List.length_cons, List.length_cons]
      omega
  | cons c t ih =>
      have cost := replaceCost_le a c
      rw [distance.eq_3, distance.eq_3]
      omega

theorem Near.behind {s s' : List α} (near : Near s s') (first : α) :
    Near (first :: s) (first :: s') := by
  intro t
  induction t with
  | nil =>
      have shorter := near []
      rw [distance_nil_right, distance_nil_right] at shorter ⊢
      rw [List.length_cons, List.length_cons]
      omega
  | cons c t ih =>
      have replaced := near t
      have deleted := near (c :: t)
      rw [distance.eq_3, distance.eq_3]
      omega

/-- One edit brings a list nearer to any other by at most one. -/
theorem near_of_perform? {e : Edit α} {s s' : List α} (step : e.perform? s = some s') :
    Near s s' := by
  induction s generalizing e s' with
  | nil =>
      rcases front_or_later e with ⟨item, rfl⟩ | rfl | ⟨item, rfl⟩ | ⟨inner, rfl⟩
      · cases step
        exact near_insert item []
      · cases step
      · cases step
      · cases inner <;> cases step
  | cons first s ih =>
      rcases front_or_later e with ⟨item, rfl⟩ | rfl | ⟨item, rfl⟩ | ⟨inner, rfl⟩
      · cases step
        exact near_insert item (first :: s)
      · cases step
        exact near_delete first s
      · cases step
        exact near_replace first item s
      · rw [perform?_later] at step
        obtain ⟨t, inside, rfl⟩ := Option.map_eq_some_iff.1 step
        exact (ih inside).behind first

/-- No script has fewer edits than the distance. -/
theorem distance_le_length {script : List (Edit α)} {s t : List α}
    (run : run? script s = some t) : distance s t ≤ script.length := by
  induction script generalizing s with
  | nil =>
      cases run
      rw [distance_self]
      exact Nat.zero_le _
  | cons e rest ih =>
      obtain ⟨next, step, runRest⟩ := Option.bind_eq_some_iff.1 run
      have shorter := ih runRest
      have near := near_of_perform? step t
      rw [List.length_cons]
      omega

end Edit

/-- The distance of two texts is the least number of edits of single characters that turn one into
the other: some script has that many, and none has fewer. -/
theorem textDistance_least (a b : String) :
    (∃ script : List (Edit Char), script.length = textDistance a b ∧
      Edit.run? script a.toList = some b.toList) ∧
    ∀ script : List (Edit Char), Edit.run? script a.toList = some b.toList →
      textDistance a b ≤ script.length := by
  rw [textDistance, editDistance_eq_distance]
  exact ⟨Edit.turns_distance a.toList b.toList, fun _ run => Edit.distance_le_length run⟩

/-- Two replacements and an insertion, and no fewer. -/
example : textDistance "kitten" "sitting" = 3 ∧
    Edit.run? [.replace 0 's', .replace 4 'i', .insert 6 'g'] "kitten".toList =
      some "sitting".toList := by
  decide

end Glossary
