import Glossary.Text.Pieces

set_option autoImplicit false

namespace Glossary.Text

/-- The stretch has no cut in it, and stands between two cuts or ends of the text. -/
def IsPiece (cut : Char → Bool) (s piece : List Char) : Prop :=
  (∀ c ∈ piece, cut c = false) ∧ ∃ before after, s = before ++ piece ++ after ∧
    (∀ c ∈ before.getLast?, cut c = true) ∧ ∀ c ∈ after.head?, cut c = true

/-- The first piece stands in front, and every other one behind a cut. -/
theorem places_of_pieces {cut : Char → Bool} {s first : List Char} {rest : List (List Char)}
    (pieced : pieces cut s = first :: rest) :
    ((∀ c ∈ first, cut c = false) ∧ ∃ after, s = first ++ after ∧
      ∀ c ∈ after.head?, cut c = true) ∧
    ∀ piece ∈ rest, (∀ c ∈ piece, cut c = false) ∧ ∃ before mark after,
      s = before ++ mark :: piece ++ after ∧ cut mark = true ∧ ∀ c ∈ after.head?, cut c = true := by
  induction s generalizing first rest with
  | nil =>
      obtain ⟨rfl, rfl⟩ := List.cons.inj pieced
      simp
  | cons c cs ih =>
      obtain ⟨next, others, tail⟩ := List.exists_cons_of_ne_nil (pieces_ne_nil cut cs)
      obtain ⟨⟨uncut, after, split, closed⟩, behind⟩ := ih tail
      have moved : ∀ piece ∈ others, (∀ c ∈ piece, cut c = false) ∧ ∃ before mark after,
          c :: cs = before ++ mark :: piece ++ after ∧ cut mark = true ∧
            ∀ c ∈ after.head?, cut c = true := by
        intro piece member
        obtain ⟨whole, before, mark, after, place, cuts, closed⟩ := behind piece member
        exact ⟨whole, c :: before, mark, after, by rw [place]; rfl, cuts, closed⟩
      by_cases cuts : cut c = true
      · rw [pieces_cut cuts, tail] at pieced
        obtain ⟨rfl, rfl⟩ := List.cons.inj pieced
        refine ⟨⟨by simp, c :: cs, rfl, by simpa using cuts⟩, fun piece member => ?_⟩
        rcases List.mem_cons.1 member with rfl | member
        · exact ⟨uncut, [], c, after, by rw [split]; rfl, cuts, closed⟩
        · exact moved piece member
      · have keeps : cut c = false := by simpa using cuts
        rw [pieces_keep keeps tail] at pieced
        obtain ⟨rfl, rfl⟩ := List.cons.inj pieced
        refine ⟨⟨?_, after, by rw [split]; rfl, closed⟩, moved⟩
        exact List.forall_mem_cons.2 ⟨keeps, uncut⟩

theorem mem_pieces_of_closed {cut : Char → Bool} {piece after : List Char}
    (uncut : ∀ c ∈ piece, cut c = false) (closed : ∀ c ∈ after.head?, cut c = true) :
    piece ∈ pieces cut (piece ++ after) := by
  cases after with
  | nil => rw [List.append_nil, pieces_of_none piece uncut]; exact List.mem_cons_self
  | cons c rest =>
      rw [pieces_append (closed c rfl), pieces_of_none piece uncut]
      exact List.mem_cons_self

theorem mem_pieces_iff {cut : Char → Bool} {s piece : List Char} :
    piece ∈ pieces cut s ↔ IsPiece cut s piece := by
  constructor
  · intro member
    obtain ⟨first, rest, pieced⟩ := List.exists_cons_of_ne_nil (pieces_ne_nil cut s)
    obtain ⟨⟨uncut, after, split, closed⟩, behind⟩ := places_of_pieces pieced
    rw [pieced] at member
    rcases List.mem_cons.1 member with rfl | member
    · exact ⟨uncut, [], after, split, by simp, closed⟩
    · obtain ⟨whole, before, mark, after, place, cuts, closed⟩ := behind piece member
      exact ⟨whole, before ++ [mark], after, by simpa using place, by simpa using cuts, closed⟩
  · rintro ⟨uncut, before, after, rfl, opened, closed⟩
    have inside := mem_pieces_of_closed uncut closed
    rcases List.eq_nil_or_concat before with rfl | ⟨front, mark, rfl⟩
    · simpa using inside
    · have cuts : cut mark = true := opened mark (by simp)
      rw [List.concat_eq_append, List.append_assoc, List.append_assoc, List.singleton_append,
        pieces_append cuts]
      exact List.mem_append_right _ inside

end Glossary.Text
