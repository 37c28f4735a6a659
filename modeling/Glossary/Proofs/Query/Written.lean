import Glossary.Proofs.Query.Seams

set_option autoImplicit false

namespace Glossary

open Glossary.Text

/-- Whether a character may stand in the text of a filter of the kind. -/
def FilterKind.allows : FilterKind → Char → Bool
  | .definition, c => c != '"' && !Query.isLineEnd c
  | .label .tag, c => !Query.isTagEnd c
  | .label .locale, c => !Query.isLocaleEnd c
  | .term, c => Query.isLetter c

namespace Filter

/-- A filter such as a query may give. -/
structure Proper (f : Filter) : Prop where
  unverified : f.verified = false
  some : f.text.toList ≠ []
  allowed : ∀ c ∈ f.text.toList, f.kind.allows c = true

def isDelimiter (c : Char) : Bool := c == '"' || c == '[' || c == ']' || c == '(' || c == ')'

/-- The text of the filter has no delimiter in it. -/
def Plain (f : Filter) : Prop := ∀ c ∈ f.text.toList, isDelimiter c = false

instance (f : Filter) : Decidable f.Plain :=
  List.decidableBAll (fun c => isDelimiter c = false) f.text.toList

/-- The term stands as a word between white space in the text of the other filter. -/
def StandsIn (f h : Filter) : Prop :=
  f.kind = .term ∧ ∃ u a b v, h.text.toList = u ++ a :: (f.text.toList ++ b :: v) ∧
    isAsciiBlank a = true ∧ isAsciiBlank b = true

theorem toList_written (f : Filter) : f.written.toList =
    f.kind.delimiters.1.toList ++ f.text.toList ++ f.kind.delimiters.2.toList := by
  rw [written, String.toList_append, String.toList_append]

end Filter

namespace Query

theorem proper_of_reads {query : List Char} {f : Filter} (reads : Reads query f) : f.Proper := by
  cases reads with
  | definition _ some plain =>
      refine ⟨rfl, by simpa using some, fun c member => ?_⟩
      obtain ⟨unquoted, inline⟩ := plain c (by simpa using member)
      simp [FilterKind.allows, unquoted, inline]
  | tag _ some plain =>
      refine ⟨rfl, by simpa using some, fun c member => ?_⟩
      simp [FilterKind.allows, plain c (by simpa using member)]
  | locale _ some plain =>
      refine ⟨rfl, by simpa using some, fun c member => ?_⟩
      simp [FilterKind.allows, plain c (by simpa using member)]
  | term _ some letters =>
      refine ⟨rfl, by simpa using some, fun c member => ?_⟩
      exact letters c (by simpa using member)

theorem text_infix_of_reads {query : List Char} {f : Filter} (reads : Reads query f) :
    f.text.toList <:+: query := by
  cases reads with
  | @definition u d v split => exact ⟨u ++ ['"'], '"' :: v, by simp [split]⟩
  | @tag u t v split => exact ⟨u ++ ['['], ']' :: v, by simp [split]⟩
  | @locale u l v split => exact ⟨u ++ ['('], ')' :: v, by simp [split]⟩
  | @term u w v split => exact ⟨u, v, by simp [split]⟩

/-- A proper filter that is written is read as itself. -/
theorem reads_written {f : Filter} (proper : f.Proper) : Reads f.written.toList f := by
  obtain ⟨kind, text, verified⟩ := f
  obtain ⟨t, rfl⟩ : ∃ t, text = String.ofList t := ⟨text.toList, String.ofList_toList.symm⟩
  obtain ⟨rfl, some, allowed⟩ := proper
  rw [Filter.toList_written]
  simp only [String.toList_ofList] at some allowed ⊢
  rcases kind with _ | (_ | _) | _
  · refine .definition (u := []) (v := []) rfl some (fun c member => ?_) Even.zero
    simpa [FilterKind.allows] using allowed c member
  · refine .tag (u := []) (v := []) rfl some (fun c member => ?_) List.not_mem_nil
    simpa [FilterKind.allows] using allowed c member
  · refine .locale (u := []) (v := []) rfl some (fun c member => ?_) List.not_mem_nil
      List.not_mem_nil
    simpa [FilterKind.allows] using allowed c member
  · refine .term (u := []) (v := []) ?_ some allowed rfl rfl
    rfl

/-- A word between white space is read in every text that holds the place where it stands. -/
theorem reads_of_standsIn {g h : Filter} {s : List Char} (proper : g.Proper)
    (stands : g.StandsIn h) (inside : h.text.toList <:+: s) : Reads s g := by
  obtain ⟨kind, text, verified⟩ := g
  obtain ⟨t, rfl⟩ : ∃ t, text = String.ofList t := ⟨text.toList, String.ofList_toList.symm⟩
  obtain ⟨rfl, some, letters⟩ := proper
  obtain ⟨rfl, u, a, b, v, place, left, right⟩ := stands
  obtain ⟨before, after, rfl⟩ := inside
  simp only [String.toList_ofList] at some letters place
  refine .term (u := before ++ u ++ [a]) (v := b :: (v ++ after)) ?_ some letters ?_ right
  · rw [place]
    simp only [List.append_assoc, List.cons_append, List.nil_append]
  · rw [List.getLast?_concat]
    exact left

/-- What does not stand in a list can only be the item behind it. -/
theorem eq_of_absent {α : Type} {x k : α} {t d v : List α} (absent : x ∉ t)
    (split : t ++ [k] = d ++ x :: v) : d = t ∧ v = [] := by
  rcases List.append_eq_append_iff.1 split with ⟨gap, rfl, follows⟩ | ⟨gap, rfl, follows⟩
  · cases gap with
    | nil => exact ⟨List.append_nil t, (List.cons.inj follows).2.symm⟩
    | cons y gap =>
        have size := congrArg List.length follows
        simp only [List.length_cons, List.length_nil, List.length_append, List.cons_append] at size
        omega
  · cases gap with
    | nil => exact ⟨(List.append_nil d).symm, (List.cons.inj follows).2⟩
    | cons y gap =>
        obtain ⟨rfl, -⟩ := List.cons.inj follows
        exact absurd (List.mem_append_right d List.mem_cons_self) absent

/-- Delimited text that can only be delimited at the ends of the whole is all between them. -/
theorem eq_of_delimited {α : Type} {o k opening closing : α} {t u d v : List α}
    (unopened : opening ∉ t) (unclosed : closing ∉ t)
    (split : o :: (t ++ [k]) = u ++ opening :: (d ++ closing :: v)) : d = t := by
  cases u with
  | nil => exact (eq_of_absent unclosed (List.cons.inj split).2).1
  | cons x u =>
      have nothing := (eq_of_absent unopened (List.cons.inj split).2).2
      exact absurd nothing (List.append_ne_nil_of_right_ne_nil d (List.cons_ne_nil closing v))

/-- A delimiter that begins filters of a kind delimits those of no other kind. -/
theorem kind_eq_of_delimiter {kind other : FilterKind} {c : Char}
    (opening : kind.delimiters.1.toList = [c])
    (ends : c ∈ other.delimiters.1.toList ∨ c ∈ other.delimiters.2.toList) : other = kind := by
  rcases kind with _ | (_ | _) | _ <;> rcases other with _ | (_ | _) | _ <;>
    simp_all [FilterKind.delimiters, eq_comm]

theorem isDelimiter_of_delimits (kind : FilterKind) {c : Char}
    (ends : c ∈ kind.delimiters.1.toList ∨ c ∈ kind.delimiters.2.toList) :
    Filter.isDelimiter c = true := by
  rcases kind with _ | (_ | _) | _ <;> simp [FilterKind.delimiters] at ends
  · simp [Filter.isDelimiter, ends]
  · rcases ends with rfl | rfl <;> rfl
  · rcases ends with rfl | rfl <;> rfl

theorem kind_eq_of_mem_written {f : Filter} {kind : FilterKind} {c : Char} (plain : f.Plain)
    (opening : kind.delimiters.1.toList = [c]) (inside : c ∈ f.written.toList) :
    f.kind = kind := by
  have delimiter := isDelimiter_of_delimits kind (c := c) (by simp [opening])
  apply kind_eq_of_delimiter opening
  rw [Filter.toList_written, List.mem_append, List.mem_append] at inside
  rcases inside with (first | within) | last
  · exact Or.inl first
  · have absent := plain c within
    rw [delimiter] at absent
    cases absent
  · exact Or.inr last

/-- Delimited text in a plain filter is its whole text. -/
theorem eq_of_delimited_written {f : Filter} {kind : FilterKind} {o k : Char} {u d v : List Char}
    (proper : f.Proper) (plain : f.Plain) (opening : kind.delimiters.1.toList = [o])
    (closing : kind.delimiters.2.toList = [k])
    (split : f.written.toList = u ++ o :: (d ++ k :: v)) :
    (⟨kind, String.ofList d, false⟩ : Filter) = f := by
  have same : f.kind = kind := kind_eq_of_mem_written plain opening (by simp [split])
  have absent : ∀ c, Filter.isDelimiter c = true → c ∉ f.text.toList := fun c delimiter within => by
    rw [plain c within] at delimiter
    cases delimiter
  have unopened := absent o (isDelimiter_of_delimits kind (by simp [opening]))
  have unclosed := absent k (isDelimiter_of_delimits kind (by simp [closing]))
  rw [Filter.toList_written, same, opening, closing] at split
  have whole : d = f.text.toList := eq_of_delimited unopened unclosed split
  obtain ⟨fkind, text, verified⟩ := f
  obtain ⟨rfl, -, -⟩ := proper
  dsimp only at same whole
  rw [same, whole, String.ofList_toList]

theorem solid_of_isDelimiter {c : Char} (delimiter : Filter.isDelimiter c = true) :
    isAsciiBlank c = false ∧ isLetter c = false := by
  simp only [Filter.isDelimiter, Bool.or_eq_true, beq_iff_eq] at delimiter
  rcases delimiter with (((rfl | rfl) | rfl) | rfl) | rfl <;> decide

/-- A word in delimited text stands between white space there. -/
theorem exists_blanks_of_delimited {o k : Char} {t u w v : List Char}
    (opening : Filter.isDelimiter o = true) (closing : Filter.isDelimiter k = true)
    (split : o :: (t ++ [k]) = u ++ w ++ v) (some : w ≠ [])
    (letters : ∀ c ∈ w, isLetter c = true) (left : isGap u.getLast? = true)
    (right : isGap v.head? = true) :
    ∃ u' a b v', t = u' ++ a :: (w ++ b :: v') ∧ isAsciiBlank a = true ∧
      isAsciiBlank b = true := by
  have solid : ∀ c, Filter.isDelimiter c = true → c ∉ w := fun c delimiter member => by
    have letter := letters c member
    rw [(solid_of_isDelimiter delimiter).2] at letter
    cases letter
  have nonempty : ∀ x y : List Char, [] ≠ x ++ w ++ y := by simp [some]
  obtain ⟨u, rfl, behind⟩ : ∃ u', u = o :: u' ∧ t ++ [k] = u' ++ w ++ v :=
    (stretch_cases (a := []) (solid o opening) split).resolve_left fun ⟨v', before, _⟩ =>
      nonempty u v' before
  obtain ⟨v, rfl, rfl⟩ : ∃ v', t = u ++ w ++ v' ∧ v = v' ++ [k] :=
    (stretch_cases (b := []) (solid k closing) behind).resolve_right fun ⟨u', _, after⟩ =>
      nonempty u' v after
  -- What stands beside the word is white space and so no delimiter, but part of the text.
  have notOpening := (solid_of_isDelimiter opening).1
  have notClosing := (solid_of_isDelimiter closing).1
  rcases List.eq_nil_or_concat' u with rfl | ⟨u, a, rfl⟩
  · exact absurd (left.symm.trans notOpening) (by decide)
  · cases v with
    | nil => exact absurd (right.symm.trans notClosing) (by decide)
    | cons b v =>
        refine ⟨u, a, b, v, by simp, ?_, right⟩
        rwa [← List.cons_append, List.getLast?_concat] at left

theorem exists_delimiters {kind : FilterKind} (delimited : kind ≠ .term) :
    ∃ o k, kind.delimiters.1.toList = [o] ∧ kind.delimiters.2.toList = [k] := by
  rcases kind with _ | (_ | _) | _
  · exact ⟨_, _, rfl, rfl⟩
  · exact ⟨_, _, rfl, rfl⟩
  · exact ⟨_, _, rfl, rfl⟩
  · exact absurd rfl delimited

theorem eq_of_word_written {f : Filter} {u w v : List Char} (proper : f.Proper)
    (kind : f.kind = .term) (split : f.written.toList = u ++ w ++ v)
    (left : isGap u.getLast? = true) (right : isGap v.head? = true) :
    (⟨.term, String.ofList w, false⟩ : Filter) = f := by
  obtain ⟨fkind, text, verified⟩ := f
  obtain ⟨rfl, -, letters⟩ := proper
  obtain rfl := kind
  have whole : text.toList = u ++ w ++ v := by
    rw [Filter.toList_written] at split
    simpa [FilterKind.delimiters] using split
  have solid : ∀ c ∈ text.toList, isGap (.some c) = false := fun c member =>
    isGap_of_isLetter (letters c member)
  have front : u = [] := by
    rcases List.eq_nil_or_concat' u with rfl | ⟨u, a, rfl⟩
    · rfl
    · rw [List.getLast?_concat, solid a (by simp [whole])] at left
      cases left
  have back : v = [] := by
    cases v with
    | nil => rfl
    | cons b v =>
        rw [List.head?_cons, solid b (by simp [whole])] at right
        cases right
  rw [front, back, List.nil_append, List.append_nil] at whole
  rw [← whole, String.ofList_toList]

/-- A plain filter that is written is read as itself and as the words that stand in its text. -/
theorem reads_written_iff {g h : Filter} (proper : h.Proper) (plain : h.Plain) :
    Reads h.written.toList g ↔ g = h ∨ (g.Proper ∧ g.StandsIn h) := by
  constructor
  · intro reads
    have properG := proper_of_reads reads
    cases reads with
    | definition split => exact Or.inl (eq_of_delimited_written proper plain rfl rfl split)
    | tag split => exact Or.inl (eq_of_delimited_written proper plain rfl rfl split)
    | locale split => exact Or.inl (eq_of_delimited_written proper plain rfl rfl split)
    | @term u w v split some letters left right =>
        by_cases kind : h.kind = .term
        · exact Or.inl (eq_of_word_written proper kind split left right)
        · obtain ⟨o, k, opening, closing⟩ := exists_delimiters kind
          have delimited := isDelimiter_of_delimits h.kind (c := o) (by simp [opening])
          have undelimited := isDelimiter_of_delimits h.kind (c := k) (by simp [closing])
          rw [Filter.toList_written, opening, closing] at split
          obtain ⟨u', a, b, v', place, blanks⟩ := exists_blanks_of_delimited
            (t := h.text.toList) delimited undelimited split some letters left right
          refine Or.inr ⟨properG, rfl, u', a, b, v', ?_, blanks⟩
          rw [place, String.toList_ofList]
  · rintro (rfl | ⟨properG, stands⟩)
    · exact reads_written proper
    · refine reads_of_standsIn properG stands ⟨_, _, (Filter.toList_written h).symm⟩

theorem not_opens_definition_of_absent {s : List Char} (absent : '"' ∉ s) :
    ¬ Opens .definition s := by
  have inside := (List.rtakeWhile_suffix (fun c => !isLineEnd c) s).subset
  have none : (afterLast isLineEnd s).count '"' = 0 :=
    List.count_eq_zero.2 fun member => absent (inside member)
  rw [Opens, none, not_not]
  exact Even.zero

theorem not_opens_tag_of_absent {s : List Char} (absent : '[' ∉ s) : ¬ Opens (.label .tag) s :=
  fun member => absent ((List.rtakeWhile_suffix (fun c => !isTagEnd c) s).subset member)

theorem not_opens_written_definition {f : Filter} (proper : f.Proper)
    (kind : f.kind = .definition) : ¬ Opens .definition f.written.toList := by
  have plain : ∀ c ∈ f.text.toList, c ≠ '"' ∧ isLineEnd c = false := fun c member => by
    have allowed := proper.allowed c member
    rw [kind] at allowed
    simpa [FilterKind.allows] using allowed
  have written : f.written.toList = '"' :: (f.text.toList ++ ['"']) := by
    rw [Filter.toList_written, kind]
    rfl
  have uncut : ∀ c ∈ f.written.toList, isLineEnd c = false := by
    intro c member
    simp only [written, List.mem_cons, List.mem_append, List.not_mem_nil, or_false] at member
    rcases member with rfl | member | rfl
    · decide
    · exact (plain c member).2
    · decide
  have unquoted : '"' ∉ f.text.toList := fun member => (plain _ member).1 rfl
  rw [Opens, afterLast_of_none uncut, written, List.count_cons_self, List.count_append,
    List.count_eq_zero.2 unquoted]
  decide

theorem not_opens_written_tag {f : Filter} (kind : f.kind = .label .tag) :
    ¬ Opens (.label .tag) f.written.toList := by
  have written : f.written.toList = ('[' :: f.text.toList) ++ ']' :: [] := by
    rw [Filter.toList_written, kind]
    rfl
  rw [Opens, written, afterLast_append_cut (by decide)]
  exact List.not_mem_nil

/-- A plain filter leaves nothing open. -/
theorem not_opens_of_plain {f : Filter} (proper : f.Proper) (plain : f.Plain)
    (kind : FilterKind) : ¬ Opens kind f.written.toList := by
  rcases kind with _ | (_ | _) | _
  · by_cases same : f.kind = .definition
    · exact not_opens_written_definition proper same
    · exact not_opens_definition_of_absent fun inside =>
        same (kind_eq_of_mem_written plain rfl inside)
  · by_cases same : f.kind = .label .tag
    · exact not_opens_written_tag same
    · exact not_opens_tag_of_absent fun inside =>
        same (kind_eq_of_mem_written plain rfl inside)
  · exact id
  · exact id

end Query

end Glossary
