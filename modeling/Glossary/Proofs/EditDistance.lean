import Glossary.Search.Matching

set_option autoImplicit false

namespace Glossary

variable {α β : Type} [DecidableEq α] [DecidableEq β]

theorem distance_self (s : List α) : distance s s = 0 := by
  induction s with
  | nil => rw [distance, List.length_nil]
  | cons a s ih =>
      rw [distance, ih, replaceCost, if_pos rfl]
      exact Nat.zero_min _

theorem distance_le_cons (s : List α) (b : α) (t : List α) :
    distance s (b :: t) ≤ distance s t + 1 := by
  cases s with
  | nil =>
      simp only [distance, List.length_cons, Nat.le_refl]
  | cons a s =>
      rw [distance]
      omega

theorem replaceCost_le (a b : α) : replaceCost a b ≤ 1 := by
  unfold replaceCost
  split <;> omega

theorem replaceCost_map {f : α → β} {a b : α} (tells : f a = f b → a = b) :
    replaceCost (f a) (f b) = replaceCost a b := by
  by_cases same : a = b
  · simp [replaceCost, same]
  · rw [replaceCost, replaceCost, if_neg same, if_neg fun image => same (tells image)]

/-- Renaming the items does not change the distance where it keeps them apart. -/
theorem distance_map {f : α → β} {s t : List α}
    (tells : ∀ a ∈ s, ∀ b ∈ t, f a = f b → a = b) :
    distance (s.map f) (t.map f) = distance s t := by
  induction s, t using distance.induct with
  | case1 t => rw [List.map_nil, distance, distance, List.length_map]
  | case2 s => rw [List.map_nil, distance_nil_right, distance_nil_right, List.length_map]
  | case3 a s b t replaced deleted inserted =>
      have both := replaced fun x inS y inT =>
        tells x (List.mem_cons_of_mem a inS) y (List.mem_cons_of_mem b inT)
      have left := deleted fun x inS y inT => tells x (List.mem_cons_of_mem a inS) y inT
      have right := inserted fun x inS y inT => tells x inS y (List.mem_cons_of_mem b inT)
      rw [List.map_cons] at left right
      rw [List.map_cons, List.map_cons, distance, distance, both, left, right,
        replaceCost_map (tells a List.mem_cons_self b List.mem_cons_self)]

theorem textDistance_comm (a b : String) : textDistance a b = textDistance b a := by
  simp only [textDistance, editDistance_eq_distance, distance_comm a.toList]

theorem distance_cons_le (a : α) (s t : List α) : distance (a :: s) t ≤ distance s t + 1 := by
  rw [distance_comm, distance_comm s]
  exact distance_le_cons t a s

theorem distance_cons_cons_le (a b : α) (s t : List α) :
    distance (a :: s) (b :: t) ≤ distance s t + replaceCost a b := by
  rw [distance]
  omega

/-- An edit changes the length by at most one. -/
theorem length_le_length_add_distance (s t : List α) : s.length ≤ t.length + distance s t := by
  induction s, t using distance.induct with
  | case1 t => exact Nat.zero_le _
  | case2 s =>
      rw [distance_nil_right]
      omega
  | case3 a s b t replaced deleted inserted =>
      rw [distance]
      simp only [List.length_cons] at deleted inserted ⊢
      omega

theorem distance_append_le (u s t : List α) : distance (u ++ s) t ≤ u.length + distance s t := by
  induction u with
  | nil =>
      rw [List.nil_append]
      omega
  | cons a u ih =>
      have front := distance_cons_le a (u ++ s) t
      rw [List.cons_append, List.length_cons]
      omega

/-- What two lists have in common at the front costs nothing. -/
theorem distance_append_self_le (t v : List α) : distance (t ++ v) t ≤ v.length := by
  induction t with
  | nil =>
      rw [List.nil_append]
      exact Nat.le_of_eq (distance_nil_right v)
  | cons a t ih =>
      have kept : replaceCost a a = 0 := if_pos rfl
      rw [List.cons_append, distance, kept]
      omega

/-- A list is as far from a part of it as it is longer. -/
theorem distance_of_infix {s t : List α} (part : t <:+: s) :
    distance s t = s.length - t.length := by
  obtain ⟨u, v, rfl⟩ := part
  have least := length_le_length_add_distance (u ++ t ++ v) t
  have front := distance_append_le u (t ++ v) t
  have back := distance_append_self_le t v
  simp only [List.append_assoc, List.length_append] at least ⊢
  omega

theorem textDistance_of_contains {whole part : String} (within : Text.contains whole part = true) :
    textDistance whole part = whole.length - part.length ∧ part.length ≤ whole.length := by
  have stretch : part.toList <:+: whole.toList := (Text.occursIn_iff _ _).1 within
  have shorter := stretch.length_le
  have farther := distance_of_infix stretch
  rw [String.length_toList, String.length_toList] at shorter farther
  rw [textDistance, editDistance_eq_distance]
  exact ⟨farther, shorter⟩

/-- The test of a term filter always has an outcome: an entry passes exactly if its term has the
text of the filter as an unbroken part and is longer by at most the distance allowed. -/
theorem Matching.passes_term_iff_infix (m : Matching) (c : Composite) (text : String)
    (verified : Bool) :
    ∃ passed, m.passes c ⟨.term, text, verified⟩ = .ok passed ∧
      (passed = true ↔ text.toList <:+: c.entry.term.toList ∧
        (c.entry.term.length : Int) - text.length ≤ m.maxDistance) := by
  refine ⟨_, rfl, ?_⟩
  rw [Bool.and_eq_true, and_comm, withinDistance, decide_eq_true_eq, ← Text.occursIn_iff]
  refine and_congr_right fun within => ?_
  obtain ⟨farther, shorter⟩ := textDistance_of_contains within
  dsimp only at farther shorter ⊢
  rw [farther]
  omega

/-- Three letters more are within the usual distance, and four are not. -/
example : ({} : Matching).passes ⟨⟨"1", "madams", "A title", "0"⟩, [], []⟩
      ⟨.term, "dam", false⟩ = .ok true ∧
    ({} : Matching).passes ⟨⟨"2", "macadam", "A road", "0"⟩, [], []⟩
      ⟨.term, "dam", false⟩ = .ok false :=
  ⟨rfl, rfl⟩

end Glossary
