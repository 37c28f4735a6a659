import Mathlib.Data.List.DropRight
import Glossary.Query

set_option autoImplicit false

namespace Glossary.Query

/-- The part of a text after its last character of a class. -/
def afterLast (cut : Char → Bool) (s : List Char) : List Char := s.rtakeWhile fun c => !cut c

/-- The part of a text before its first character of a class. -/
def beforeFirst (cut : Char → Bool) (s : List Char) : List Char := s.takeWhile fun c => !cut c

theorem afterLast_of_none {cut : Char → Bool} {s : List Char} (none : ∀ c ∈ s, cut c = false) :
    afterLast cut s = s := by
  rw [afterLast, List.rtakeWhile_eq_self_iff]
  intro c inside
  simp only [none c inside, Bool.not_false]

theorem afterLast_append_cut {cut : Char → Bool} {c : Char} (cuts : cut c = true)
    (s t : List Char) : afterLast cut (s ++ c :: t) = afterLast cut t := by
  simp only [afterLast, List.rtakeWhile, List.reverse_append, List.reverse_cons, List.append_assoc,
    List.takeWhile_append, List.singleton_append, List.takeWhile_cons, cuts, Bool.not_true,
    Bool.false_eq_true, ↓reduceIte, List.append_nil]
  split
  · rename_i whole
    rw [List.IsPrefix.eq_of_length (List.takeWhile_prefix _) whole]
  · rfl

theorem afterLast_append_of_cut {cut : Char → Bool} {t : List Char}
    (some : ∃ x ∈ t, cut x = true) (s : List Char) : afterLast cut (s ++ t) = afterLast cut t := by
  obtain ⟨x, inside, cuts⟩ := some
  obtain ⟨front, back, rfl⟩ := List.append_of_mem inside
  rw [← List.append_assoc, afterLast_append_cut cuts, afterLast_append_cut cuts]

theorem afterLast_cons_of_cut {cut : Char → Bool} {s : List Char}
    (some : ∃ x ∈ s, cut x = true) (c : Char) : afterLast cut (c :: s) = afterLast cut s :=
  afterLast_append_of_cut some [c]

/-- How often a character stands after the last cut changes only if it comes in front of a text
without cuts. -/
theorem count_afterLast_cons (cut : Char → Bool) (mark c : Char) (s : List Char) :
    (afterLast cut (c :: s)).count mark = (afterLast cut s).count mark +
      if c = mark ∧ (c :: s).all (!cut ·) = true then 1 else 0 := by
  by_cases some : ∃ x ∈ s, cut x = true
  · obtain ⟨x, inside, cuts⟩ := some
    have notNone : ¬ (c :: s).all (!cut ·) = true := fun none => by
      have uncut := List.all_eq_true.1 none x (List.mem_cons_of_mem c inside)
      simp [cuts] at uncut
    rw [afterLast_cons_of_cut ⟨x, inside, cuts⟩, if_neg fun both => notNone both.2, Nat.add_zero]
  · have none : ∀ x ∈ s, cut x = false := by
      intro x inside
      by_contra cuts
      exact some ⟨x, inside, by simpa using cuts⟩
    by_cases cuts : cut c = true
    · have alone : afterLast cut (c :: s) = s := by
        rw [← List.nil_append (c :: s), afterLast_append_cut cuts, afterLast_of_none none]
      have notNone : ¬ (c :: s).all (!cut ·) = true := fun none => by
        have uncut := List.all_eq_true.1 none c List.mem_cons_self
        simp [cuts] at uncut
      rw [alone, afterLast_of_none none, if_neg fun both => notNone both.2, Nat.add_zero]
    · have all : ∀ x ∈ c :: s, cut x = false := by
        intro x inside
        rcases List.mem_cons.1 inside with rfl | inside
        · simpa using cuts
        · exact none x inside
      have uncut : (c :: s).all (!cut ·) = true := by simpa using all
      rw [afterLast_of_none all, afterLast_of_none none, List.count_cons]
      simp only [beq_iff_eq, and_iff_left uncut]

namespace Delimited

/-- `t` may stand between the delimiters of a text that opens right before `rest`; `v` is what
follows the closing delimiter. -/
structure Fits (d : Delimited) (t v rest : List Char) : Prop where
  split : rest = t ++ d.closing :: v
  inside : ∀ c ∈ t, d.isInside c = true
  enough : d.least ≤ t.length

theorem mem_closings_iff (d : Delimited) (count n : Nat) (rest : List Char) :
    n ∈ d.closings count rest ↔ ∃ t v, rest = t ++ d.closing :: v ∧
      (∀ c ∈ t, d.isInside c = true) ∧ n = count + t.length := by
  induction rest generalizing count with
  | nil => simp [closings]
  | cons c rest ih =>
      have later : n ∈ (if d.isInside c then d.closings (count + 1) rest else []) ↔
          ∃ t v, rest = t ++ d.closing :: v ∧ (∀ x ∈ c :: t, d.isInside x = true) ∧
            n = count + (c :: t).length := by
        split
        · rename_i inside
          rw [ih]
          simp only [List.mem_cons, forall_eq_or_imp, inside, true_and, List.length_cons]
          simp only [show ∀ k, count + 1 + k = count + (k + 1) by omega]
        · rename_i outside
          simp [outside]
      have here : n ∈ d.closings count (c :: rest) ↔ (c = d.closing ∧ n = count) ∨
          n ∈ (if d.isInside c then d.closings (count + 1) rest else []) := by
        simp only [closings]
        split <;> simp_all
      rw [here, later]
      constructor
      · rintro (⟨rfl, rfl⟩ | ⟨t, v, rfl, inside, rfl⟩)
        · exact ⟨[], rest, rfl, by simp, rfl⟩
        · exact ⟨c :: t, v, rfl, inside, rfl⟩
      · intro held
        rcases held with ⟨t, v, split, inside, rfl⟩
        cases t with
        | nil =>
            rw [List.nil_append, List.cons.injEq] at split
            exact Or.inl ⟨split.1, rfl⟩
        | cons x t =>
            rw [List.cons_append, List.cons.injEq] at split
            obtain ⟨rfl, rfl⟩ := split
            exact Or.inr ⟨t, v, rfl, inside, rfl⟩

theorem pairwise_closings (d : Delimited) (count : Nat) (rest : List Char) :
    (d.closings count rest).Pairwise (· < ·) := by
  induction rest generalizing count with
  | nil => exact List.Pairwise.nil
  | cons c rest ih =>
      have ahead : ∀ n ∈ (if d.isInside c then d.closings (count + 1) rest else []), count < n := by
        intro n member
        split at member
        · obtain ⟨t, _, _, _, rfl⟩ := (mem_closings_iff d (count + 1) n rest).1 member
          omega
        · cases member
      have sorted :
          (if d.isInside c then d.closings (count + 1) rest else []).Pairwise (· < ·) := by
        split
        · exact ih (count + 1)
        · exact List.Pairwise.nil
      simp only [closings]
      split
      · exact List.Pairwise.cons ahead sorted
      · exact sorted

theorem fits_of_mem_closings {d : Delimited} {rest : List Char} {n : Nat}
    (member : n ∈ (d.closings 0 rest).filter fun count => decide (d.least ≤ count)) :
    ∃ t v, d.Fits t v rest ∧ t.length = n := by
  obtain ⟨closing, enough⟩ := List.mem_filter.1 member
  obtain ⟨t, v, split, inside, rfl⟩ := (mem_closings_iff d 0 n rest).1 closing
  rw [Nat.zero_add] at enough ⊢
  exact ⟨t, v, ⟨split, inside, of_decide_eq_true enough⟩, rfl⟩

theorem Fits.mem_closings {d : Delimited} {t v rest : List Char} (fits : d.Fits t v rest) :
    t.length ∈ (d.closings 0 rest).filter fun count => decide (d.least ≤ count) := by
  apply List.mem_filter.2
  refine ⟨(mem_closings_iff d 0 t.length rest).2 ⟨t, v, fits.split, fits.inside, ?_⟩, ?_⟩
  · rw [Nat.zero_add]
  · exact decide_eq_true fits.enough

theorem not_fits_of_inside_none {d : Delimited} {rest : List Char} (none : d.inside? rest = none)
    (t v : List Char) : ¬ d.Fits t v rest := by
  intro fits
  have member := fits.mem_closings
  have empty : (d.closings 0 rest).filter (fun count => decide (d.least ≤ count)) = [] := by
    simp only [inside?] at none
    split at none
    · exact List.getLast?_eq_none_iff.1 none
    · exact List.head?_eq_none_iff.1 none
  rw [empty] at member
  cases member

/-- The chosen text, and how it compares with any other one that fits. -/
structure Chosen (d : Delimited) (t v rest : List Char) : Prop extends d.Fits t v rest where
  last : d.toLast = true → ∀ t' v', d.Fits t' v' rest → t'.length ≤ t.length
  first : d.toLast = false → ∀ t' v', d.Fits t' v' rest → t.length ≤ t'.length

theorem chosen_of_inside_some {d : Delimited} {rest : List Char} {n : Nat}
    (some : d.inside? rest = some n) : ∃ t v, d.Chosen t v rest ∧ t.length = n := by
  have sorted := (pairwise_closings d 0 rest).filter fun count => decide (d.least ≤ count)
  simp only [inside?] at some
  split at some
  · rename_i toLast
    obtain ⟨front, whole⟩ := List.getLast?_eq_some_iff.1 some
    have known : n ∈ (d.closings 0 rest).filter fun count => decide (d.least ≤ count) := by
      simp [whole]
    obtain ⟨t, v, fits, rfl⟩ := fits_of_mem_closings known
    refine ⟨t, v, ⟨fits, fun _ t' v' other => ?_, fun toFirst => ?_⟩, rfl⟩
    · have member := other.mem_closings
      rw [whole] at member sorted
      rcases List.mem_append.1 member with member | member
      · exact Nat.le_of_lt ((List.pairwise_append.1 sorted).2.2 _ member _ List.mem_cons_self)
      · exact Nat.le_of_eq (List.mem_singleton.1 member)
    · rw [toLast] at toFirst
      cases toFirst
  · rename_i toFirst
    obtain ⟨later, whole⟩ := List.head?_eq_some_iff.1 some
    have known : n ∈ (d.closings 0 rest).filter fun count => decide (d.least ≤ count) := by
      simp [whole]
    obtain ⟨t, v, fits, rfl⟩ := fits_of_mem_closings known
    refine ⟨t, v, ⟨fits, fun toLast => absurd toLast toFirst, fun _ t' v' other => ?_⟩, rfl⟩
    have member := other.mem_closings
    rw [whole] at member sorted
    rcases List.mem_cons.1 member with same | member
    · exact Nat.le_of_eq same.symm
    · exact Nat.le_of_lt ((List.pairwise_cons.1 sorted).1 _ member)

def tokens (d : Delimited) (s : List Char) : List (List Char) := scan d.pattern 0 none s

theorem scan_eq_tokens (d : Delimited) (skip : Nat) (before : Option Char) (s : List Char) :
    scan d.pattern skip before s = d.tokens (s.drop skip) := by
  induction s generalizing skip before with
  | nil => simp [tokens, scan]
  | cons c rest ih =>
      cases skip with
      | zero => simp only [tokens, scan, pattern, List.drop_zero]
      | succ skip => simp only [scan, ih, List.drop_succ_cons]

theorem tokens_of_ne {d : Delimited} {c : Char} (other : c ≠ d.opening) (rest : List Char) :
    d.tokens (c :: rest) = d.tokens rest := by
  rw [tokens, scan, pattern, if_neg other, scan_eq_tokens, List.drop_zero]

theorem tokens_of_inside_none {d : Delimited} {rest : List Char} (none : d.inside? rest = none) :
    d.tokens (d.opening :: rest) = d.tokens rest := by
  rw [tokens, scan, pattern, if_pos rfl, none]
  simp only [Option.map_none, scan_eq_tokens, List.drop_zero]

theorem tokens_of_inside_some {d : Delimited} {t v rest : List Char} (fits : d.Fits t v rest)
    (some : d.inside? rest = some t.length) :
    d.tokens (d.opening :: rest) = (d.opening :: (t ++ [d.closing])) :: d.tokens v := by
  have whole : rest = (t ++ [d.closing]) ++ v := by
    rw [fits.split, List.append_assoc, List.singleton_append]
  have size : t.length + 1 = (t ++ [d.closing]).length := by
    rw [List.length_append, List.length_singleton]
  rw [tokens, scan, pattern, if_pos rfl, some]
  simp only [Option.map_some, scan_eq_tokens, size]
  rw [whole, List.take_left, List.drop_left]

/-- Delimited text in a whole one: `u` stands before the opening delimiter, `t` between the
delimiters and `v` after the closing one. -/
structure Occurs (d : Delimited) (u t v s : List Char) : Prop where
  split : s = u ++ d.opening :: (t ++ d.closing :: v)
  inside : ∀ c ∈ t, d.isInside c = true
  enough : d.least ≤ t.length

/-- Conditions on the two sides of delimited text that single out what a scan takes. They tell the
chosen text from any other that opens at its place, hold of nothing that opens inside of it, and
hold of what opens after it as if the scan began there. -/
structure Singles (d : Delimited) (Before : List Char → Prop)
    (After : List Char → List Char → Prop) : Prop where
  start : Before []
  skipped : ∀ {c u}, c ≠ d.opening → (Before (c :: u) ↔ Before u)
  unmatched : ∀ {u t v rest}, d.inside? rest = none → d.Occurs u t v rest →
    (Before (d.opening :: u) ↔ Before u)
  chosen : ∀ {t v rest}, d.Chosen t v rest → After t v
  unique : ∀ {t v rest t' v'}, d.Chosen t v rest → d.Fits t' v' rest → After t' v' → t' = t
  within : ∀ {t v rest u}, d.Chosen t v rest → u <+: t → ¬ Before (d.opening :: u)
  past : ∀ {t v rest u t' v'}, d.Chosen t v rest → d.Occurs u t' v' v →
    (Before (d.opening :: (t ++ d.closing :: u)) ↔ Before u)

section Described

variable {d : Delimited} {Before : List Char → Prop} {After : List Char → List Char → Prop}

/-- A token and its place as the conditions describe them. -/
def Described (d : Delimited) (Before : List Char → Prop) (After : List Char → List Char → Prop)
    (s token : List Char) : Prop :=
  ∃ u t v, d.Occurs u t v s ∧ Before u ∧ After t v ∧ token = d.opening :: (t ++ [d.closing])

theorem described_of_ne (singles : Singles d Before After) {c : Char} (other : c ≠ d.opening)
    (rest token : List Char) :
    Described d Before After (c :: rest) token ↔ Described d Before After rest token := by
  constructor
  · intro held
    rcases held with ⟨u, t, v, occurs, before, after, rfl⟩
    cases u with
    | nil => exact absurd (List.cons.inj occurs.split).1 other
    | cons x u =>
        obtain ⟨rfl, split⟩ := List.cons.inj occurs.split
        exact ⟨u, t, v, ⟨split, occurs.inside, occurs.enough⟩, (singles.skipped other).1 before,
          after, rfl⟩
  · intro held
    rcases held with ⟨u, t, v, occurs, before, after, rfl⟩
    refine ⟨c :: u, t, v, ⟨?_, occurs.inside, occurs.enough⟩, (singles.skipped other).2 before,
      after, rfl⟩
    rw [occurs.split, List.cons_append]

theorem described_of_inside_none (singles : Singles d Before After) {rest : List Char}
    (none : d.inside? rest = none) (token : List Char) :
    Described d Before After (d.opening :: rest) token ↔ Described d Before After rest token := by
  constructor
  · intro held
    rcases held with ⟨u, t, v, occurs, before, after, rfl⟩
    cases u with
    | nil =>
        have split := (List.cons.inj occurs.split).2
        exact absurd ⟨split, occurs.inside, occurs.enough⟩ (not_fits_of_inside_none none t v)
    | cons x u =>
        obtain ⟨rfl, split⟩ := List.cons.inj occurs.split
        have occurs : d.Occurs u t v rest := ⟨split, occurs.inside, occurs.enough⟩
        exact ⟨u, t, v, occurs, (singles.unmatched none occurs).1 before, after, rfl⟩
  · intro held
    rcases held with ⟨u, t, v, occurs, before, after, rfl⟩
    refine ⟨d.opening :: u, t, v, ⟨?_, occurs.inside, occurs.enough⟩,
      (singles.unmatched none occurs).2 before, after, rfl⟩
    rw [occurs.split, List.cons_append]

theorem described_of_chosen (singles : Singles d Before After) {t v rest : List Char}
    (chosen : d.Chosen t v rest) (token : List Char) :
    Described d Before After (d.opening :: rest) token ↔
      token = d.opening :: (t ++ [d.closing]) ∨ Described d Before After v token := by
  constructor
  · intro held
    rcases held with ⟨u, t', v', occurs, before, after, rfl⟩
    cases u with
    | nil =>
        have split := (List.cons.inj occurs.split).2
        rw [singles.unique chosen ⟨split, occurs.inside, occurs.enough⟩ after]
        exact Or.inl rfl
    | cons x u =>
        obtain ⟨rfl, split⟩ := List.cons.inj occurs.split
        -- The other text opens inside the chosen one, at its closing delimiter, or after it.
        rw [chosen.split] at split
        rcases List.append_eq_append_iff.1 split with ⟨gap, rfl, follows⟩ | ⟨gap, rfl, _⟩
        · cases gap with
          | nil => exact absurd before (singles.within chosen (by simp))
          | cons y gap =>
              obtain ⟨rfl, later⟩ := List.cons.inj follows
              have occurs : d.Occurs gap t' v' v := ⟨later, occurs.inside, occurs.enough⟩
              exact Or.inr ⟨gap, t', v', occurs, (singles.past chosen occurs).1 before, after, rfl⟩
        · exact absurd before (singles.within chosen (List.prefix_append u gap))
  · rintro (rfl | ⟨u, t', v', occurs, before, after, rfl⟩)
    · refine ⟨[], t, v, ⟨?_, chosen.inside, chosen.enough⟩, singles.start,
        singles.chosen chosen, rfl⟩
      rw [chosen.split, List.nil_append]
    · refine ⟨d.opening :: (t ++ d.closing :: u), t', v', ⟨?_, occurs.inside, occurs.enough⟩,
        (singles.past chosen occurs).2 before, after, rfl⟩
      rw [chosen.split, occurs.split]
      simp only [List.cons_append, List.append_assoc]

/-- The scan takes exactly the described text. -/
theorem mem_tokens_iff (singles : Singles d Before After) (s token : List Char) :
    token ∈ d.tokens s ↔ Described d Before After s token := by
  induction size : s.length using Nat.strongRecOn generalizing s with
  | ind n ih =>
    cases s with
    | nil =>
        have nowhere : ¬ Described d Before After [] token := by
          intro held
          rcases held with ⟨u, t, v, occurs, _⟩
          have := congrArg List.length occurs.split
          simp at this
        simp only [tokens, scan, List.not_mem_nil, nowhere]
    | cons c rest =>
        rw [List.length_cons] at size
        by_cases opens : c = d.opening
        · subst opens
          cases found : d.inside? rest with
          | none =>
              rw [tokens_of_inside_none found, described_of_inside_none singles found]
              exact ih rest.length (by omega) rest rfl
          | some count =>
              obtain ⟨t, v, chosen, rfl⟩ := chosen_of_inside_some found
              have shorter : v.length < n := by
                have := congrArg List.length chosen.split
                rw [List.length_append, List.length_cons] at this
                omega
              rw [tokens_of_inside_some chosen.toFits found, List.mem_cons,
                described_of_chosen singles chosen, ih v.length shorter v rfl]
        · rw [tokens_of_ne opens, described_of_ne singles opens]
          exact ih rest.length (by omega) rest rfl

end Described

end Delimited

end Glossary.Query
