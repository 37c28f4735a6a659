import Mathlib.Data.List.Nodup
import Glossary.Proofs.Query.Grammar

set_option autoImplicit false

namespace Glossary.Query

open Glossary.Text

section Places

variable {α : Type} {a b u t v w : List α} {c opening closing : α}

/-- A stretch without a certain character is on one side of it. -/
theorem stretch_cases (absent : c ∉ w) (split : a ++ c :: b = u ++ w ++ v) :
    (∃ v', a = u ++ w ++ v' ∧ v = v' ++ c :: b) ∨ ∃ u', u = a ++ c :: u' ∧ b = u' ++ w ++ v := by
  rcases List.append_eq_append_iff.1 split with ⟨gap, whole, follows⟩ | ⟨gap, rfl, follows⟩
  · cases gap with
    | nil =>
        rw [List.append_nil] at whole
        exact Or.inl ⟨[], by rw [List.append_nil, whole], follows.symm⟩
    | cons x gap =>
        obtain ⟨rfl, rfl⟩ := List.cons.inj follows
        rcases List.append_eq_append_iff.1 whole with ⟨rest, rfl, across⟩ | ⟨rest, rfl, behind⟩
        · exact absurd (by simp [across]) absent
        · cases rest with
          | nil =>
              have same : w = c :: gap := behind.symm
              exact absurd (by simp [same]) absent
          | cons y u' =>
              obtain ⟨rfl, rfl⟩ := List.cons.inj behind
              exact Or.inr ⟨u', rfl, rfl⟩
  · exact Or.inl ⟨gap, rfl, follows⟩

/-- Delimited text is on one side of a character that is no delimiter, or around it. -/
theorem delimited_cases (notOpening : c ≠ opening) (notClosing : c ≠ closing)
    (split : a ++ c :: b = u ++ opening :: (t ++ closing :: v)) :
    (∃ v', a = u ++ opening :: (t ++ closing :: v') ∧ v = v' ++ c :: b) ∨
      (∃ u', u = a ++ c :: u' ∧ b = u' ++ opening :: (t ++ closing :: v)) ∨
      ∃ t₁ t₂, t = (t₁ ++ [c]) ++ t₂ ∧ a ++ [c] = u ++ opening :: (t₁ ++ [c]) ∧
        b = t₂ ++ closing :: v := by
  rcases List.append_eq_append_iff.1 split with ⟨gap, rfl, follows⟩ | ⟨gap, rfl, follows⟩
  · -- The text opens behind the character.
    cases gap with
    | nil => exact absurd (List.cons.inj follows).1 notOpening
    | cons x u' =>
        obtain ⟨rfl, rfl⟩ := List.cons.inj follows
        exact Or.inr (Or.inl ⟨u', rfl, rfl⟩)
  · cases gap with
    | nil => exact absurd (List.cons.inj follows).1.symm notOpening
    | cons x gap =>
        obtain ⟨rfl, inside⟩ := List.cons.inj follows
        rcases List.append_eq_append_iff.1 inside with ⟨rest, rfl, later⟩ | ⟨rest, rfl, later⟩
        · -- It closes before the character.
          cases rest with
          | nil => exact absurd (List.cons.inj later).1.symm notClosing
          | cons y v' =>
              obtain ⟨rfl, rfl⟩ := List.cons.inj later
              exact Or.inl ⟨v', rfl, rfl⟩
        · cases rest with
          | nil => exact absurd (List.cons.inj later).1 notClosing
          | cons y t₂ =>
              obtain ⟨rfl, rfl⟩ := List.cons.inj later
              exact Or.inr (Or.inr ⟨gap, t₂, by simp, by simp, rfl⟩)

end Places

theorem afterLast_append_of_uncut {cut : Char → Bool} {t : List Char}
    (uncut : ∀ x ∈ t, cut x = false) (s : List Char) :
    afterLast cut (s ++ t) = afterLast cut s ++ t := by
  have all : ∀ x ∈ t.reverse, (!cut x) = true := by
    intro x member
    rw [uncut x (List.mem_reverse.1 member), Bool.not_false]
  simp only [afterLast, List.rtakeWhile, List.reverse_append, List.takeWhile_append_of_pos all,
    List.reverse_reverse]

/-- Two texts in a row have their last cut in the second one, or in the first if that has none. -/
theorem afterLast_append_cases (cut : Char → Bool) (s t : List Char) :
    afterLast cut (s ++ t) = afterLast cut t ∨
      afterLast cut (s ++ t) = afterLast cut s ++ afterLast cut t := by
  by_cases cuts : ∃ x ∈ t, cut x = true
  · exact Or.inl (afterLast_append_of_cut cuts s)
  · have uncut : ∀ x ∈ t, cut x = false := by
      intro x member
      by_contra isCut
      exact cuts ⟨x, member, by simpa using isCut⟩
    rw [afterLast_append_of_uncut uncut, afterLast_of_none uncut]
    exact Or.inr rfl

/-- At the end of the text a quote or a bracket is open, with which a filter of the kind could
begin. A parenthesis is closed before white space or not at all, and words have no delimiters. -/
def Opens : FilterKind → List Char → Prop
  | .definition, s => ¬ Even ((afterLast isLineEnd s).count '"')
  | .label .tag, s => '[' ∈ afterLast isTagEnd s
  | .label .locale, _ => False
  | .term, _ => False

/-- The text has a delimiter with which a filter of the kind could end that began before it. -/
def Shuts : FilterKind → List Char → Prop
  | .definition, s => '"' ∈ s
  | .label .tag, s => ']' ∈ s
  | .label .locale, _ => False
  | .term, _ => False

/-- Behind a text that leaves nothing open it is as if nothing came before. -/
theorem opens_append_iff {kind : FilterKind} {s : List Char} (closed : ¬ Opens kind s)
    (t : List Char) : Opens kind (s ++ t) ↔ Opens kind t := by
  rcases kind with _ | (_ | _) | _
  · rcases afterLast_append_cases isLineEnd s t with same | both
    · rw [Opens, Opens, same]
    · have even := not_not.1 closed
      rw [Opens, Opens, both, List.count_append, Nat.even_add, iff_true_left even]
  · rcases afterLast_append_cases isTagEnd s t with same | both
    · rw [Opens, Opens, same]
    · rw [Opens, Opens, both, List.mem_append]
      exact or_iff_right closed
  · rfl
  · rfl

theorem opens_append_blank_iff {kind : FilterKind} (s : List Char) :
    Opens kind (s ++ [' ']) ↔ Opens kind s := by
  have lines : afterLast isLineEnd (s ++ [' ']) = afterLast isLineEnd s ++ [' '] :=
    afterLast_append_of_uncut (List.forall_mem_singleton.2 (by decide)) s
  have tags : afterLast isTagEnd (s ++ [' ']) = afterLast isTagEnd s ++ [' '] :=
    afterLast_append_of_uncut (List.forall_mem_singleton.2 (by decide)) s
  rcases kind with _ | (_ | _) | _
  · rw [Opens, Opens, lines, List.count_append]
    rfl
  · rw [Opens, Opens, tags, List.mem_append, or_iff_left (by decide)]
  · rfl
  · rfl

theorem opens_definition {u t : List Char} (closed : ¬ Opens .definition u)
    (plain : ∀ x ∈ t, x ≠ '"' ∧ isLineEnd x = false) : Opens .definition (u ++ '"' :: t) := by
  have uncut : ∀ x ∈ '"' :: t, isLineEnd x = false :=
    List.forall_mem_cons.2 ⟨by decide, fun x member => (plain x member).2⟩
  have unquoted : '"' ∉ t := fun member => (plain _ member).1 rfl
  rw [opens_append_iff closed, Opens, afterLast_of_none uncut, List.count_cons_self,
    List.count_eq_zero.2 unquoted]
  decide

theorem opens_tag (u : List Char) {t : List Char} (plain : ∀ x ∈ t, isTagEnd x = false) :
    Opens (.label .tag) (u ++ '[' :: t) := by
  have uncut : ∀ x ∈ '[' :: t, isTagEnd x = false := List.forall_mem_cons.2 ⟨by decide, plain⟩
  rw [Opens, afterLast_append_of_uncut uncut]
  exact List.mem_append_right _ List.mem_cons_self

section Seam

variable {a b : List Char} {c : Char} {g : Filter} (blank : isAsciiBlank c = true)

include blank

theorem ne_of_isAsciiBlank {d : Char} (solid : isAsciiBlank d = false) : c ≠ d := by
  rintro rfl
  rw [blank] at solid
  cases solid

theorem isLocaleEnd_of_isAsciiBlank : isLocaleEnd c = true := by
  rw [isLocaleEnd, blank, Bool.or_true]

theorem beforeFirst_append_blank (s t : List Char) :
    beforeFirst isLocaleEnd (s ++ c :: t) = beforeFirst isLocaleEnd s := by
  have cuts : (!isLocaleEnd c) = false := by rw [isLocaleEnd_of_isAsciiBlank blank, Bool.not_true]
  induction s with
  | nil => rw [List.nil_append, beforeFirst, beforeFirst, List.takeWhile_cons, cuts]; rfl
  | cons x s ih =>
      simp only [beforeFirst, List.cons_append, List.takeWhile_cons] at ih ⊢
      rw [ih]

theorem isGap_head?_append (v t : List Char) :
    isGap (v ++ c :: t).head? = isGap v.head? := by
  cases v with
  | nil => exact blank
  | cons x v => rfl

theorem isGap_getLast?_append (s u : List Char) :
    isGap (s ++ c :: u).getLast? = isGap u.getLast? := by
  rw [List.getLast?_append, List.getLast?_cons]
  cases u.getLast? with
  | none => exact blank
  | some x => rfl

/-- What the first text holds the whole holds. -/
theorem Reads.append_left (reads : Reads a g) (b : List Char) : Reads (a ++ c :: b) g := by
  cases reads with
  | @definition u d v split some plain paired =>
      exact .definition (v := v ++ c :: b) (by simp [split]) some plain paired
  | @tag u t v split some plain opens =>
      exact .tag (v := v ++ c :: b) (by simp [split]) some plain opens
  | @locale u l v split some plain opens closes =>
      refine .locale (v := v ++ c :: b) (by simp [split]) some plain opens ?_
      rwa [beforeFirst_append_blank blank]
  | @term u w v split some letters left right =>
      refine .term (v := v ++ c :: b) (by simp [split]) some letters left ?_
      rwa [isGap_head?_append blank]

/-- So it does with the second, unless that begins by closing what the first left open. -/
theorem Reads.append_right (apart : Opens g.kind (a ++ [c]) → ¬ Shuts g.kind b)
    (reads : Reads b g) : Reads (a ++ c :: b) g := by
  have joined : ∀ u, a ++ c :: u = (a ++ [c]) ++ u := by simp
  cases reads with
  | @definition u d v split some plain paired =>
      have closed : ¬ Opens .definition (a ++ [c]) := fun opens =>
        apart opens (by simp [Shuts, split])
      refine .definition (u := a ++ c :: u) (v := v) (by simp [split]) some plain ?_
      rw [joined]
      exact not_not.1 ((opens_append_iff closed u).not.2 (not_not.2 paired))
  | @tag u t v split some plain opens =>
      have closed : ¬ Opens (.label .tag) (a ++ [c]) := fun opens =>
        apart opens (by simp [Shuts, split])
      refine .tag (u := a ++ c :: u) (v := v) (by simp [split]) some plain ?_
      rw [joined]
      exact (opens_append_iff closed u).not.2 opens
  | @locale u l v split some plain opens closes =>
      refine .locale (u := a ++ c :: u) (by simp [split]) some plain ?_ closes
      rwa [afterLast_append_cut (isLocaleEnd_of_isAsciiBlank blank)]
  | @term u w v split some letters left right =>
      refine .term (u := a ++ c :: u) (by simp [split]) some letters ?_ right
      rwa [isGap_getLast?_append blank]

/-- Two texts with white space between them are read on their own, unless the second closes a quote
or a bracket that the first leaves open. -/
theorem reads_append_iff (apart : Opens g.kind (a ++ [c]) → ¬ Shuts g.kind b) :
    Reads (a ++ c :: b) g ↔ Reads a g ∨ Reads b g := by
  have joined : ∀ u, a ++ c :: u = (a ++ [c]) ++ u := by simp
  refine ⟨fun reads => ?_, fun either => either.elim (fun reads => reads.append_left blank b)
    (Reads.append_right blank apart)⟩
  cases reads with
  | @definition u d v split some plain paired =>
      have quote := ne_of_isAsciiBlank blank (show isAsciiBlank '"' = false by decide)
      rcases delimited_cases quote quote split with
        ⟨v', before, -⟩ | ⟨u', rfl, after⟩ | ⟨d₁, d₂, rfl, before, after⟩
      · exact Or.inl (.definition before some plain paired)
      · have closed : ¬ Opens .definition (a ++ [c]) := fun opens =>
          apart opens (by simp [Shuts, after])
        refine Or.inr (.definition after some plain ?_)
        rw [joined] at paired
        exact not_not.1 ((opens_append_iff closed u').not.1 (not_not.2 paired))
      · -- Quotes around the white space would be open before it and closed behind it.
        have opens : Opens .definition (a ++ [c]) := by
          rw [before]
          apply opens_definition (not_not.2 paired)
          intro x member
          exact plain x (List.mem_append_left d₂ member)
        exact absurd (by simp [Shuts, after]) (apart opens)
  | @tag u t v split some plain opens =>
      have opening := ne_of_isAsciiBlank blank (show isAsciiBlank '[' = false by decide)
      have closing := ne_of_isAsciiBlank blank (show isAsciiBlank ']' = false by decide)
      rcases delimited_cases opening closing split with
        ⟨v', before, -⟩ | ⟨u', rfl, after⟩ | ⟨t₁, t₂, rfl, before, after⟩
      · exact Or.inl (.tag before some plain opens)
      · have closed : ¬ Opens (.label .tag) (a ++ [c]) := fun opens =>
          apart opens (by simp [Shuts, after])
        refine Or.inr (.tag after some plain ?_)
        rw [joined] at opens
        exact (opens_append_iff closed u').not.1 opens
      · have opens : Opens (.label .tag) (a ++ [c]) := by
          rw [before]
          apply opens_tag u
          intro x member
          exact plain x (List.mem_append_left t₂ member)
        exact absurd (by simp [Shuts, after]) (apart opens)
  | @locale u l v split some plain opens closes =>
      have cuts := isLocaleEnd_of_isAsciiBlank blank
      have opening := ne_of_isAsciiBlank blank (show isAsciiBlank '(' = false by decide)
      have closing := ne_of_isAsciiBlank blank (show isAsciiBlank ')' = false by decide)
      rcases delimited_cases opening closing split with
        ⟨v', before, rfl⟩ | ⟨u', rfl, after⟩ | ⟨l₁, l₂, rfl, -, -⟩
      · rw [beforeFirst_append_blank blank] at closes
        exact Or.inl (.locale before some plain opens closes)
      · rw [afterLast_append_cut cuts] at opens
        exact Or.inr (.locale after some plain opens closes)
      · have uncut := plain c (by simp)
        rw [cuts] at uncut
        cases uncut
  | @term u w v split some letters left right =>
      have absent : c ∉ w := fun member => by
        have solid := isAsciiBlank_of_isLetter (letters c member)
        rw [blank] at solid
        cases solid
      rcases stretch_cases absent split with ⟨v', before, rfl⟩ | ⟨u', rfl, after⟩
      · rw [isGap_head?_append blank] at right
        exact Or.inl (.term before some letters left right)
      · rw [isGap_getLast?_append blank] at left
        exact Or.inr (.term after some letters left right)

end Seam

theorem toList_join_cons (s t : String) (rest : List String) :
    (join " " (s :: t :: rest)).toList = s.toList ++ ' ' :: (join " " (t :: rest)).toList := by
  change (s ++ " " ++ join " " (t :: rest)).toList = _
  rw [String.toList_append, String.toList_append, List.append_assoc]
  rfl

theorem mem_join {texts : List String} {x : Char} (inside : x ∈ (join " " texts).toList) :
    x = ' ' ∨ ∃ s ∈ texts, x ∈ s.toList := by
  induction texts with
  | nil => exact absurd inside List.not_mem_nil
  | cons s rest ih =>
      cases rest with
      | nil => exact Or.inr ⟨s, List.mem_cons_self, inside⟩
      | cons t rest =>
          rw [toList_join_cons, List.mem_append, List.mem_cons] at inside
          rcases inside with here | rfl | later
          · exact Or.inr ⟨s, List.mem_cons_self, here⟩
          · exact Or.inl rfl
          · refine (ih later).imp_right fun ⟨r, member, within⟩ => ?_
            exact ⟨r, List.mem_cons_of_mem s member, within⟩

/-- What closes is in one of the texts. -/
theorem exists_shuts_of_join {kind : FilterKind} {texts : List String}
    (shuts : Shuts kind (join " " texts).toList) : ∃ s ∈ texts, Shuts kind s.toList := by
  rcases kind with _ | (_ | _) | _
  · exact (mem_join shuts).resolve_left (by decide)
  · exact (mem_join shuts).resolve_left (by decide)
  · exact shuts.elim
  · exact shuts.elim

theorem not_reads_nil (g : Filter) : ¬ Reads [] g := by
  intro reads
  cases reads with
  | definition split => simp at split
  | tag split => simp at split
  | locale split => simp at split
  | term split some => simp_all

/-- Texts in a row are read each on its own, unless one closes what one before it leaves open. -/
theorem reads_join_iff {texts : List String} {g : Filter}
    (apart : texts.Pairwise fun s t => Opens g.kind s.toList → ¬ Shuts g.kind t.toList) :
    Reads (join " " texts).toList g ↔ ∃ s ∈ texts, Reads s.toList g := by
  induction texts with
  | nil => exact iff_of_false (not_reads_nil g) (by simp)
  | cons s rest ih =>
      obtain ⟨first, later⟩ := List.pairwise_cons.1 apart
      cases rest with
      | nil => simp [join]
      | cons t rest =>
          have seam : Opens g.kind (s.toList ++ [' ']) →
              ¬ Shuts g.kind (join " " (t :: rest)).toList := by
            intro opens shuts
            obtain ⟨r, member, closing⟩ := exists_shuts_of_join shuts
            exact first r member ((opens_append_blank_iff s.toList).1 opens) closing
          rw [toList_join_cons, reads_append_iff (by decide) seam, ih later]
          simp only [List.mem_cons, exists_eq_or_imp]

/-- What one text holds is read in the row if the texts before it leave nothing open. -/
theorem reads_join_of_mem {before after : List String} {s : String} {g : Filter}
    (closed : ∀ t ∈ before, ¬ Opens g.kind t.toList) (reads : Reads s.toList g) :
    Reads (join " " (before ++ s :: after)).toList g := by
  induction before with
  | nil =>
      cases after with
      | nil => exact reads
      | cons t rest =>
          rw [List.nil_append, toList_join_cons]
          exact reads.append_left (by decide) _
  | cons t rest ih =>
      obtain ⟨first, later⟩ := List.forall_mem_cons.1 closed
      obtain ⟨r, others, follows⟩ := List.exists_cons_of_ne_nil (List.append_ne_nil_of_right_ne_nil
        rest (List.cons_ne_nil s after))
      have inRest := ih later
      rw [follows] at inRest
      rw [List.cons_append, follows, toList_join_cons]
      refine inRest.append_right (by decide) fun opens => ?_
      exact absurd ((opens_append_blank_iff t.toList).1 opens) first

/-- At the end of a line nothing is open. -/
theorem not_opens_append_cut (kind : FilterKind) (s : List Char) {c : Char}
    (line : isLineEnd c = true) (tag : isTagEnd c = true) : ¬ Opens kind (s ++ [c]) := by
  rcases kind with _ | (_ | _) | _
  · have quotes : afterLast isLineEnd (s ++ [c]) = [] := afterLast_append_cut line s []
    rw [Opens, quotes, List.count_nil]
    decide
  · have brackets : afterLast isTagEnd (s ++ [c]) = [] := afterLast_append_cut tag s []
    rw [Opens, brackets]
    exact List.not_mem_nil
  · exact id
  · exact id

/-- The end of a line parts a query into two that are read on their own. -/
theorem parse_append_perm (a b : String) {c : Char} (blank : isAsciiBlank c = true)
    (line : isLineEnd c = true) (tag : isTagEnd c = true) :
    (parse (a ++ String.singleton c ++ b)).Perm (parse a ∪ parse b) := by
  have whole : (a ++ String.singleton c ++ b).toList = a.toList ++ c :: b.toList := by
    simp
  refine (List.perm_ext_iff_of_nodup (nodup_parse _) (List.Nodup.union _ (nodup_parse b))).2 fun g => ?_
  have apart : Opens g.kind (a.toList ++ [c]) → ¬ Shuts g.kind b.toList := fun opens =>
    absurd opens (not_opens_append_cut g.kind a.toList line tag)
  rw [List.mem_union_iff, mem_parse_iff, mem_parse_iff, mem_parse_iff, whole]
  exact reads_append_iff blank apart

/-- A query has the filters of its lines, whichever of the two characters ends a line: no filter
reaches over the end, and what one line leaves open is not closed by the next. -/
theorem parse_lines (a b : String) :
    (parse (a ++ "\n" ++ b)).Perm (parse a ∪ parse b) ∧
      (parse (a ++ "\r" ++ b)).Perm (parse a ∪ parse b) := by
  have feed : "\n" = String.singleton '\n' := rfl
  have turn : "\r" = String.singleton '\r' := rfl
  rw [feed, turn]
  exact ⟨parse_append_perm a b (by decide) (by decide) (by decide),
    parse_append_perm a b (by decide) (by decide) (by decide)⟩

/-- Brackets around the end of a line are not read. -/
example : parse "[fresh water] dam" = [⟨.label .tag, "fresh water", false⟩, ⟨.term, "dam", false⟩] ∧
    parse "[fresh\nwater] dam" = [⟨.term, "dam", false⟩] := by decide +kernel

end Glossary.Query
