set_option autoImplicit false

namespace Glossary.Text

/-- The pieces of a text between the characters that satisfy `cut`. -/
def pieces (cut : Char → Bool) : List Char → List (List Char)
  | [] => [[]]
  | c :: cs =>
    if cut c then [] :: pieces cut cs
    else
      match pieces cut cs with
      | [] => [[c]]
      | first :: rest => (c :: first) :: rest

theorem pieces_ne_nil (cut : Char → Bool) (s : List Char) : pieces cut s ≠ [] := by
  cases s with
  | nil => simp [pieces]
  | cons c cs =>
    simp only [pieces]
    split
    · simp
    · split <;> simp

theorem pieces_cut {cut : Char → Bool} {c : Char} (h : cut c = true) (s : List Char) :
    pieces cut (c :: s) = [] :: pieces cut s := by
  simp only [pieces, h, if_true]

theorem pieces_keep {cut : Char → Bool} {c : Char} {s first : List Char} {rest : List (List Char)}
    (h : cut c = false) (hs : pieces cut s = first :: rest) :
    pieces cut (c :: s) = (c :: first) :: rest := by
  simp only [pieces, h, hs, Bool.false_eq_true, if_false]

/-- A cut separates: the pieces before it and the pieces after it do not touch. -/
theorem pieces_append {cut : Char → Bool} {c : Char} (h : cut c = true) (s t : List Char) :
    pieces cut (s ++ c :: t) = pieces cut s ++ pieces cut t := by
  induction s with
  | nil => rw [List.nil_append, pieces_cut h]; rfl
  | cons d ds ih =>
    by_cases hd : cut d = true
    · rw [List.cons_append, pieces_cut hd, pieces_cut hd, ih, List.cons_append]
    · have hd : cut d = false := by simpa using hd
      obtain ⟨first, rest, hp⟩ := List.exists_cons_of_ne_nil (pieces_ne_nil cut ds)
      rw [hp, List.cons_append] at ih
      rw [List.cons_append, pieces_keep hd ih, pieces_keep hd hp, List.cons_append]

/-- A text without cuts is one piece. -/
theorem pieces_of_none {cut : Char → Bool} (s : List Char) (none : ∀ c ∈ s, cut c = false) :
    pieces cut s = [s] := by
  induction s with
  | nil => rfl
  | cons c cs ih =>
    apply pieces_keep (none c List.mem_cons_self)
    exact ih fun d inside => none d (List.mem_cons_of_mem c inside)

/-- The texts one after another, each with `mark` at its end. -/
def ended (mark : Char) (texts : List (List Char)) : List Char := texts.flatMap (· ++ [mark])

/-- The texts that were each given an end, or nothing if the last one has no end. -/
def unended? (mark : Char) (s : List Char) : Option (List (List Char)) :=
  let all := pieces (· == mark) s
  if all.getLast? = some [] then some all.dropLast else none

theorem pieces_ended (mark : Char) (texts : List (List Char))
    (none : ∀ text ∈ texts, ∀ c ∈ text, (c == mark) = false) :
    pieces (· == mark) (ended mark texts) = texts ++ [[]] := by
  induction texts with
  | nil => rfl
  | cons text rest ih =>
    have first := pieces_of_none text (none text List.mem_cons_self)
    have others := ih fun t inside => none t (List.mem_cons_of_mem text inside)
    have whole : ended mark (text :: rest) = text ++ mark :: ended mark rest := by
      simp only [ended, List.flatMap_cons, List.append_assoc, List.singleton_append]
    have apart := @pieces_append (· == mark) mark (beq_self_eq_true mark) text (ended mark rest)
    rw [whole, apart, first, others]
    rfl

theorem unended_ended (mark : Char) (texts : List (List Char))
    (none : ∀ text ∈ texts, ∀ c ∈ text, (c == mark) = false) :
    unended? mark (ended mark texts) = some texts := by
  unfold unended?
  simp only [pieces_ended mark texts none, List.getLast?_concat, List.dropLast_concat, if_true]

/-- The texts one after another, with `separator` between neighbours. -/
def join (separator : String) : List String → String
  | [] => ""
  | [s] => s
  | s :: rest => s ++ separator ++ join separator rest

theorem join_eq_intercalate (separator : String) (texts : List String) :
    join separator texts = separator.intercalate texts := by
  induction texts with
  | nil => rfl
  | cons s rest ih =>
      cases rest with
      | nil => exact String.intercalate_singleton.symm
      | cons t rest => rw [join, ih, String.intercalate_cons_cons]; exact nofun

end Glossary.Text
