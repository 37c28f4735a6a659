set_option autoImplicit false

namespace Glossary.Text

def isEndMark (c : Char) : Bool := c == '\t' || c == '\n'

/-- The letter that stands for a mark after a backslash. -/
def markLetter? (c : Char) : Option Char :=
  if c = '\\' then some '\\' else if c = '\t' then some 't' else if c = '\n' then some 'n' else none

/-- The mark that a letter stands for after a backslash. -/
def letterMark? (c : Char) : Option Char :=
  if c = '\\' then some '\\' else if c = 't' then some '\t' else if c = 'n' then some '\n' else none

theorem letterMark_markLetter {c letter : Char} (found : markLetter? c = some letter) :
    letterMark? letter = some c ∧ isEndMark letter = false := by
  unfold markLetter? at found
  split at found
  · rename_i same
    cases found
    rw [same]
    exact ⟨rfl, rfl⟩
  · split at found
    · rename_i same
      cases found
      rw [same]
      exact ⟨rfl, rfl⟩
    · split at found
      · rename_i same
        cases found
        rw [same]
        exact ⟨rfl, rfl⟩
      · cases found

/-- A character without a letter is neither a backslash nor an end mark. -/
theorem plain_of_markLetter {c : Char} (absent : markLetter? c = none) :
    c ≠ '\\' ∧ isEndMark c = false := by
  have backslash : c ≠ '\\' := by
    intro same
    rw [same] at absent
    cases absent
  have tab : c ≠ '\t' := by
    intro same
    rw [same] at absent
    cases absent
  have line : c ≠ '\n' := by
    intro same
    rw [same] at absent
    cases absent
  exact ⟨backslash, by simp [isEndMark, tab, line]⟩

/-- The text with its marks written out. -/
def escape : List Char → List Char
  | [] => []
  | c :: rest =>
    match markLetter? c with
    | some letter => '\\' :: letter :: escape rest
    | none => c :: escape rest

/-- The text that was written. A backslash without the letter of a mark makes no sense. -/
def unescape : List Char → Option (List Char)
  | [] => some []
  | c :: rest =>
    if c = '\\' then
      match rest with
      | [] => none
      | letter :: rest =>
        (letterMark? letter).bind fun mark => (unescape rest).map (mark :: ·)
    else (unescape rest).map (c :: ·)

theorem unescape_mark (letter : Char) (rest : List Char) :
    unescape ('\\' :: letter :: rest) =
      (letterMark? letter).bind fun mark => (unescape rest).map (mark :: ·) := by
  rw [unescape.eq_def]
  rfl

theorem unescape_plain {c : Char} (plain : c ≠ '\\') (rest : List Char) :
    unescape (c :: rest) = (unescape rest).map (c :: ·) := by
  rw [unescape.eq_def]
  exact if_neg plain

theorem unescape_escape (s : List Char) : unescape (escape s) = some s := by
  induction s with
  | nil => rfl
  | cons c rest ih =>
    unfold escape
    split
    · rename_i letter found
      rw [unescape_mark, (letterMark_markLetter found).1, ih]
      rfl
    · rename_i absent
      rw [unescape_plain (plain_of_markLetter absent).1, ih]
      rfl

/-- No end mark is left in a written text. -/
theorem not_mem_escape (s : List Char) : ∀ c ∈ escape s, isEndMark c = false := by
  induction s with
  | nil => exact fun c inside => absurd inside List.not_mem_nil
  | cons d rest ih =>
    unfold escape
    split
    · rename_i letter found
      intro c inside
      rcases List.mem_cons.1 inside with rfl | inside
      · rfl
      · rcases List.mem_cons.1 inside with rfl | inside
        · exact (letterMark_markLetter found).2
        · exact ih c inside
    · rename_i absent
      intro c inside
      rcases List.mem_cons.1 inside with rfl | inside
      · exact (plain_of_markLetter absent).2
      · exact ih c inside

end Glossary.Text
