import Mathlib.Algebra.Group.Nat.Even
import Glossary.Proofs.Query.Delimited

set_option autoImplicit false

namespace Glossary.Query

open Glossary.Text

/-- The filters that a query stands for. -/
inductive Reads (query : List Char) : Filter → Prop where
  /-- Text in quotes on one line, with an even number of quotes before it on the line. -/
  | definition {u d v : List Char} (split : query = u ++ '"' :: (d ++ '"' :: v)) (some : d ≠ [])
      (plain : ∀ c ∈ d, c ≠ '"' ∧ isLineEnd c = false)
      (paired : Even ((afterLast isLineEnd u).count '"')) :
      Reads query ⟨.definition, String.ofList d, false⟩
  /-- Text in brackets, the first opening one after the last closing one or end of a line. -/
  | tag {u t v : List Char} (split : query = u ++ '[' :: (t ++ ']' :: v)) (some : t ≠ [])
      (plain : ∀ c ∈ t, isTagEnd c = false) (opens : '[' ∉ afterLast isTagEnd u) :
      Reads query ⟨.label .tag, String.ofList t, false⟩
  /-- Text from the first opening to the last closing parenthesis of a stretch without closing
  brackets and white space. -/
  | locale {u l v : List Char} (split : query = u ++ '(' :: (l ++ ')' :: v)) (some : l ≠ [])
      (plain : ∀ c ∈ l, isLocaleEnd c = false) (opens : '(' ∉ afterLast isLocaleEnd u)
      (closes : ')' ∉ beforeFirst isLocaleEnd v) :
      Reads query ⟨.label .locale, String.ofList l, false⟩
  /-- Letters between white space or the ends of the query. -/
  | term {u w v : List Char} (split : query = u ++ w ++ v) (some : w ≠ [])
      (letters : ∀ c ∈ w, isLetter c = true) (left : isGap u.getLast? = true)
      (right : isGap v.head? = true) :
      Reads query ⟨.term, String.ofList w, false⟩

theorem mem_afterLast_cons {cut : Char → Bool} {mark c : Char} {s : List Char} :
    mark ∈ afterLast cut (c :: s) ↔
      mark ∈ afterLast cut s ∨ (c = mark ∧ ∀ x ∈ c :: s, cut x = false) := by
  rw [← List.count_pos_iff, ← List.count_pos_iff, count_afterLast_cons]
  have uncut : (c :: s).all (!cut ·) = true ↔ ∀ x ∈ c :: s, cut x = false := by simp
  split
  · rename_i both
    exact iff_of_true (Nat.succ_pos _) (Or.inr ⟨both.1, uncut.1 both.2⟩)
  · rename_i neither
    rw [uncut] at neither
    simp only [neither, or_false, Nat.add_zero]

namespace Delimited

variable {d : Delimited} {cut : Char → Bool}

theorem Fits.extend {t v t' v' rest : List Char} (short : d.Fits t v rest)
    (long : d.Fits t' v' rest) (less : t.length < t'.length) :
    ∃ gap, t' = t ++ d.closing :: gap ∧ v = gap ++ d.closing :: v' := by
  have same := short.split.symm.trans long.split
  rcases List.append_eq_append_iff.1 same with ⟨gap, rfl, follows⟩ | ⟨gap, rfl, _⟩
  · cases gap with
    | nil => simp at less
    | cons c gap =>
        obtain ⟨rfl, later⟩ := List.cons.inj follows
        exact ⟨gap, rfl, later⟩
  · simp only [List.length_append] at less
    omega

/-- A text that goes to the last closing delimiter has no other one within reach behind it. -/
theorem Chosen.unreached {t v rest gap v' : List Char} (chosen : d.Chosen t v rest)
    (toLast : d.toLast = true) (closing : d.isInside d.closing = true)
    (split : v = gap ++ d.closing :: v') : ∃ c ∈ gap, d.isInside c = false := by
  by_contra uncut
  push Not at uncut
  have longer : d.Fits (t ++ d.closing :: gap) v' rest := by
    refine ⟨?_, ?_, ?_⟩
    · rw [chosen.split, split, List.append_assoc, List.cons_append]
    · intro c member
      rcases List.mem_append.1 member with member | member
      · exact chosen.inside c member
      · rcases List.mem_cons.1 member with rfl | member
        · exact closing
        · exact Bool.of_not_eq_false (uncut c member)
    · rw [List.length_append]
      exact Nat.le_add_right_of_le chosen.enough
  have most := chosen.last toLast _ _ longer
  rw [List.length_append, List.length_cons] at most
  omega

theorem Fits.eq_of_length {t v t' v' rest : List Char} (one : d.Fits t v rest)
    (other : d.Fits t' v' rest) (same : t.length = t'.length) : t = t' :=
  List.append_inj_left (one.split.symm.trans other.split) same

/-- Text that fits nowhere has to be cut off before anything else can open. -/
theorem exists_cut_of_unmatched (inside : ∀ c, d.isInside c = !cut c)
    (opening : cut d.opening = false) {u t v rest : List Char} (none : d.inside? rest = none)
    (occurs : d.Occurs u t v rest) : ∃ x ∈ u, cut x = true := by
  by_contra uncut
  apply not_fits_of_inside_none none (u ++ d.opening :: t) v
  refine ⟨?_, ?_, ?_⟩
  · rw [occurs.split, List.append_assoc, List.cons_append]
  · intro c member
    rcases List.mem_append.1 member with member | member
    · rw [inside c]
      by_contra cuts
      exact uncut ⟨c, member, by simpa using cuts⟩
    · rcases List.mem_cons.1 member with rfl | member
      · rw [inside, opening, Bool.not_false]
      · exact occurs.inside c member
  · have := occurs.enough
    rw [List.length_append, List.length_cons]
    omega

/-- Within a text that fits there are no cuts. -/
theorem uncut_of_leading (inside : ∀ c, d.isInside c = !cut c) (opening : cut d.opening = false)
    {t v rest u : List Char} (fits : d.Fits t v rest) (part : u <+: t) :
    ∀ x ∈ d.opening :: u, cut x = false := by
  intro x member
  rcases List.mem_cons.1 member with rfl | member
  · exact opening
  · have within := fits.inside x (part.subset member)
    rw [inside] at within
    simpa using within

end Delimited

open Delimited

theorem quoted_singles : Singles quoted (fun u => Even ((afterLast isLineEnd u).count '"'))
    fun t _ => '"' ∉ t := by
  have inside : ∀ c, quoted.isInside c = !isLineEnd c := fun _ => rfl
  have opening : isLineEnd quoted.opening = false := by decide
  have plain : ∀ {t v rest}, quoted.Chosen t v rest → '"' ∉ t := by
    intro t v rest chosen member
    obtain ⟨front, back, rfl⟩ := List.append_of_mem member
    have shorter : quoted.Fits front (back ++ '"' :: v) rest := by
      refine ⟨?_, fun c early => chosen.inside c (List.mem_append_left _ early), Nat.zero_le _⟩
      rw [chosen.split, List.append_assoc]
      rfl
    have := chosen.first rfl front _ shorter
    rw [List.length_append, List.length_cons] at this
    omega
  constructor
  case start => exact Even.zero
  case skipped =>
    intro c u other
    rw [count_afterLast_cons, if_neg fun both => other both.1, Nat.add_zero]
  case unmatched =>
    intro u t v rest none occurs
    rw [afterLast_cons_of_cut (exists_cut_of_unmatched inside opening none occurs)]
  case chosen => exact plain
  case unique =>
    intro t v rest t' v' chosen fits unquoted
    have least := chosen.first rfl t' v' fits
    by_cases less : t.length < t'.length
    · obtain ⟨gap, rfl, _⟩ := chosen.toFits.extend fits less
      exact absurd (List.mem_append_right t List.mem_cons_self) unquoted
    · exact fits.eq_of_length chosen.toFits (by omega)
  case within =>
    intro t v rest u chosen part
    have absent : '"' ∉ u := fun member => plain chosen (part.subset member)
    rw [afterLast_of_none (uncut_of_leading inside opening chosen.toFits part)]
    change ¬ Even (('"' :: u).count '"')
    rw [List.count_cons_self, List.count_eq_zero.2 absent]
    decide
  case past =>
    intro t v rest u t' v' chosen occurs
    have uncut := uncut_of_leading inside opening chosen.toFits (List.prefix_refl t)
    by_cases cuts : ∃ x ∈ u, isLineEnd x = true
    · rw [show quoted.opening :: (t ++ quoted.closing :: u) =
        (quoted.opening :: (t ++ [quoted.closing])) ++ u by simp, afterLast_append_of_cut cuts]
    · have none : ∀ x ∈ u, isLineEnd x = false := by
        intro x member
        by_contra isCut
        exact cuts ⟨x, member, by simpa using isCut⟩
      have allNone : ∀ x ∈ quoted.opening :: (t ++ quoted.closing :: u), isLineEnd x = false := by
        intro x member
        rcases List.mem_cons.1 member with rfl | member
        · exact opening
        · rcases List.mem_append.1 member with member | member
          · exact uncut x (List.mem_cons_of_mem _ member)
          · rcases List.mem_cons.1 member with rfl | member
            · exact opening
            · exact none x member
      rw [afterLast_of_none allNone, afterLast_of_none none]
      change Even (('"' :: (t ++ '"' :: u)).count '"') ↔ _
      rw [List.count_cons_self, List.count_append, List.count_cons_self,
        List.count_eq_zero.2 (plain chosen), Nat.zero_add, Nat.even_add_one, Nat.even_add_one,
        not_not]

/-- Delimited text that opens at the first opening delimiter after a cut. It is left to show what
tells the chosen text from others, and that what opens after it does so behind a cut. -/
theorem singles_of_first {d : Delimited} {cut : Char → Bool} {After : List Char → List Char → Prop}
    (inside : ∀ c, d.isInside c = !cut c) (opening : cut d.opening = false)
    (chosenAfter : ∀ {t v rest}, d.Chosen t v rest → After t v)
    (unique : ∀ {t v rest t' v'}, d.Chosen t v rest → d.Fits t' v' rest → After t' v' → t' = t)
    (past : ∀ {t v rest u t' v'}, d.Chosen t v rest → d.Occurs u t' v' v →
      afterLast cut (d.opening :: (t ++ d.closing :: u)) = afterLast cut u) :
    Singles d (fun u => d.opening ∉ afterLast cut u) After where
  start := List.not_mem_nil
  skipped := by
    intro c u other
    rw [mem_afterLast_cons, or_iff_left fun both => other both.1]
  unmatched := by
    intro u t v rest none occurs
    rw [afterLast_cons_of_cut (exists_cut_of_unmatched inside opening none occurs)]
  chosen := chosenAfter
  unique := unique
  within := by
    intro t v rest u chosen part absent
    rw [afterLast_of_none (uncut_of_leading inside opening chosen.toFits part)] at absent
    exact absent List.mem_cons_self
  past := by
    intro t v rest u t' v' chosen occurs
    rw [past chosen occurs]

theorem bracketed_singles : Singles bracketed (fun u => '[' ∉ afterLast isTagEnd u)
    fun _ _ => True := by
  have closing : bracketed.isInside bracketed.closing = false := by decide
  -- A longer text would hold the closing bracket of the shorter one.
  have notShorter : ∀ {t v rest t' v'}, bracketed.Fits t v rest → bracketed.Fits t' v' rest →
      ¬ t.length < t'.length := by
    intro t v rest t' v' short long less
    obtain ⟨gap, rfl, _⟩ := short.extend long less
    rw [long.inside _ (List.mem_append_right t List.mem_cons_self)] at closing
    cases closing
  apply singles_of_first (d := bracketed) (fun _ => rfl) (by decide)
  case chosenAfter =>
    intro t v rest _
    trivial
  case unique =>
    intro t v rest t' v' chosen fits _
    have notLess := notShorter chosen.toFits fits
    have notMore := notShorter fits chosen.toFits
    exact fits.eq_of_length chosen.toFits (by omega)
  case past =>
    intro t v rest u t' v' _ _
    exact afterLast_append_cut (by decide) (bracketed.opening :: t) u

theorem parenthesized_singles : Singles parenthesized (fun u => '(' ∉ afterLast isLocaleEnd u)
    fun _ v => ')' ∉ beforeFirst isLocaleEnd v := by
  have inside : ∀ c, parenthesized.isInside c = !isLocaleEnd c := fun _ => rfl
  have opening : isLocaleEnd parenthesized.opening = false := by decide
  apply singles_of_first inside opening
  case chosenAfter =>
    intro t v rest chosen member
    obtain ⟨gap, back, whole⟩ := List.append_of_mem member
    obtain ⟨later, split⟩ := List.takeWhile_prefix (fun c => !isLocaleEnd c) (l := v)
    have follows : v = gap ++ ')' :: (back ++ later) := by
      rw [← split, show List.takeWhile _ v = gap ++ ')' :: back from whole, List.append_assoc,
        List.cons_append]
    obtain ⟨c, early, cuts⟩ := chosen.unreached rfl (by decide) follows
    have reached : c ∈ beforeFirst isLocaleEnd v := by
      rw [whole]
      exact List.mem_append_left _ early
    have within : parenthesized.isInside c = true := List.mem_takeWhile_imp reached
    rw [cuts] at within
    cases within
  case unique =>
    intro t v rest t' v' chosen fits unreached
    have longest := chosen.last rfl t' v' fits
    by_cases less : t'.length < t.length
    · obtain ⟨gap, rfl, rfl⟩ := fits.extend chosen.toFits less
      refine absurd ?_ unreached
      have reached : ∀ c ∈ gap ++ [')'], (!isLocaleEnd c) = true := by
        intro c member
        rcases List.mem_append.1 member with member | member
        · exact chosen.inside c (List.mem_append_right _ (List.mem_cons_of_mem _ member))
        · rw [List.mem_singleton.1 member]
          decide
      have front : gap ++ [')'] <+:
          beforeFirst isLocaleEnd (gap ++ parenthesized.closing :: v) := by
        have joined : gap ++ parenthesized.closing :: v = (gap ++ [')']) ++ v := by
          rw [List.append_assoc]
          rfl
        rw [joined, beforeFirst, List.takeWhile_append_of_pos reached]
        exact List.prefix_append _ _
      exact front.subset (List.mem_append_right _ (List.mem_singleton.2 rfl))
    · exact fits.eq_of_length chosen.toFits (by omega)
  case past =>
    intro t v rest u t' v' chosen occurs
    by_cases cuts : ∃ x ∈ u, isLocaleEnd x = true
    · rw [show parenthesized.opening :: (t ++ parenthesized.closing :: u) =
        (parenthesized.opening :: (t ++ [parenthesized.closing])) ++ u by simp,
        afterLast_append_of_cut cuts]
    · -- Without a cut the first text would go on to the end of the other one.
      have follows : v = (u ++ '(' :: t') ++ ')' :: v' := by
        rw [occurs.split, List.append_assoc]
        rfl
      obtain ⟨c, between, outside⟩ := chosen.unreached rfl (by decide) follows
      rw [inside] at outside
      rcases List.mem_append.1 between with member | member
      · exact absurd ⟨c, member, by simpa using outside⟩ cuts
      · rcases List.mem_cons.1 member with rfl | member
        · exact absurd outside (by decide)
        · have within := occurs.inside c member
          rw [inside, outside] at within
          cases within

theorem isAsciiBlank_of_isLetter {c : Char} (letter : isLetter c = true) :
    isAsciiBlank c = false := by
  obtain ⟨r, member, lower, upper⟩ := (inRanges_iff _ c).1 letter
  simp only [List.mem_cons, List.not_mem_nil, or_false] at member
  by_contra blank
  obtain ⟨b, blankMember, blankLower, blankUpper⟩ :=
    (inRanges_iff _ c).1 (Bool.of_not_eq_false blank)
  simp only [List.mem_cons, List.not_mem_nil, or_false] at blankMember
  rcases member with rfl | rfl <;> rcases blankMember with rfl | rfl <;> simp only at * <;> omega

theorem isGap_of_isLetter {c : Char} (letter : isLetter c = true) : isGap (some c) = false :=
  isAsciiBlank_of_isLetter letter

/-- Behind a letter no word begins, so that the letters of a word need not be skipped. -/
theorem scan_word_skip (skip : Nat) (s : List Char) {a : Char} (letter : isLetter a = true)
    (letters : ∀ c ∈ s.take skip, isLetter c = true) :
    scan word skip (some a) s = scan word 0 (some a) s := by
  induction s generalizing skip a with
  | nil => simp only [scan]
  | cons c rest ih =>
      cases skip with
      | zero => rfl
      | succ skip =>
          rw [List.take_succ_cons] at letters
          have none : word (some a) c rest = none := by
            simp only [word, isGap_of_isLetter letter, Bool.false_and, Bool.false_eq_true,
              ↓reduceIte]
          simp only [scan, none]
          exact ih skip (letters c List.mem_cons_self)
            fun x member => letters x (List.mem_cons_of_mem c member)

/-- A word of a text that has `before` on its left. -/
def Word (before : Option Char) (s w : List Char) : Prop :=
  ∃ u v, s = u ++ w ++ v ∧ w ≠ [] ∧ (∀ c ∈ w, isLetter c = true) ∧
    isGap (u.getLast?.or before) = true ∧ isGap v.head? = true

theorem takeWhile_isLetter {w v : List Char} (letters : ∀ c ∈ w, isLetter c = true)
    (right : isGap v.head? = true) : (w ++ v).takeWhile isLetter = w := by
  have stops : v.takeWhile isLetter = [] := by
    cases v with
    | nil => rfl
    | cons y v =>
        apply List.takeWhile_cons_of_neg
        intro letter
        rw [List.head?_cons, isGap_of_isLetter letter] at right
        cases right
  rw [List.takeWhile_append_of_pos letters, stops, List.append_nil]

theorem word_of_run {before : Option Char} {c : Char} {w v : List Char}
    (left : isGap before = true) (letters : ∀ x ∈ c :: w, isLetter x = true)
    (right : isGap v.head? = true) : word before c (w ++ v) = some w.length := by
  have run := takeWhile_isLetter (fun x member => letters x (List.mem_cons_of_mem c member)) right
  simp only [word, run, left, letters c List.mem_cons_self, Bool.true_and]
  rw [List.drop_left, if_pos right]

theorem run_of_word {before : Option Char} {c : Char} {rest : List Char} {more : Nat}
    (found : word before c rest = some more) :
    isGap before = true ∧ (∀ x ∈ c :: rest.take more, isLetter x = true) ∧
      isGap (rest.drop more).head? = true := by
  simp only [word] at found
  split at found
  · rename_i fits
    simp only [Bool.and_eq_true] at fits
    obtain ⟨⟨left, letter⟩, right⟩ := fits
    cases found
    refine ⟨left, fun x member => ?_, right⟩
    rcases List.mem_cons.1 member with rfl | member
    · exact letter
    · rw [← List.prefix_iff_eq_take.1 (List.takeWhile_prefix isLetter)] at member
      exact List.mem_takeWhile_imp member
  · cases found

theorem getLast?_cons_or (c : Char) (u : List Char) (before : Option Char) :
    (c :: u).getLast?.or before = u.getLast?.or (some c) := by
  rw [List.getLast?_cons]
  cases u.getLast? <;> rfl

theorem word_cons_iff (before : Option Char) (c : Char) (rest w : List Char) :
    Word before (c :: rest) w ↔
      (∃ more, word before c rest = some more ∧ w = c :: rest.take more) ∨
        Word (some c) rest w := by
  constructor
  · intro held
    rcases held with ⟨u, v, split, nonempty, letters, left, right⟩
    cases u with
    | nil =>
        cases w with
        | nil => exact absurd rfl nonempty
        | cons x w =>
            obtain ⟨rfl, rfl⟩ : c = x ∧ rest = w ++ v := List.cons.inj split
            exact Or.inl ⟨w.length, word_of_run left letters right, by rw [List.take_left]⟩
    | cons x u =>
        obtain ⟨rfl, rest_eq⟩ := List.cons.inj split
        rw [getLast?_cons_or] at left
        exact Or.inr ⟨u, v, rest_eq, nonempty, letters, left, right⟩
  · intro held
    rcases held with ⟨more, found, rfl⟩ | ⟨u, v, rfl, nonempty, letters, left, right⟩
    · obtain ⟨left, letters, right⟩ := run_of_word found
      refine ⟨[], rest.drop more, ?_, List.cons_ne_nil _ _, letters, left, right⟩
      rw [List.nil_append, List.cons_append, List.take_append_drop]
    · rw [← getLast?_cons_or c u before] at left
      exact ⟨c :: u, v, rfl, nonempty, letters, left, right⟩

theorem mem_scan_word_iff (before : Option Char) (s w : List Char) :
    w ∈ scan word 0 before s ↔ Word before s w := by
  induction s generalizing before with
  | nil =>
      have nowhere : ¬ Word before [] w := by
        intro held
        rcases held with ⟨u, v, split, nonempty, _⟩
        have := congrArg List.length split
        have := List.length_pos_iff.2 nonempty
        simp only [List.length_nil, List.length_append] at *
        omega
      simp only [scan, List.not_mem_nil, nowhere]
  | cons c rest ih =>
      rw [word_cons_iff, ← ih]
      cases found : word before c rest with
      | none => simp [scan, found]
      | some more =>
          obtain ⟨-, letters, -⟩ := run_of_word found
          rw [scan, found]
          simp only [Option.some.injEq, exists_eq_left', List.mem_cons]
          rw [scan_word_skip more rest (letters c List.mem_cons_self)
            fun x member => letters x (List.mem_cons_of_mem c member)]

section Delimited

variable {text : List Char} {f : Filter}

theorem ofToken_quoted_iff : Filter.ofToken? (String.ofList ('"' :: (text ++ ['"']))) = some f ↔
    text ≠ [] ∧ ⟨.definition, String.ofList text, false⟩ = f := by
  simp [Filter.ofToken?]

theorem ofToken_bracketed_iff : Filter.ofToken? (String.ofList ('[' :: (text ++ [']']))) = some f ↔
    text ≠ [] ∧ ⟨.label .tag, String.ofList text, false⟩ = f := by
  simp [Filter.ofToken?]

theorem ofToken_parenthesized_iff :
    Filter.ofToken? (String.ofList ('(' :: (text ++ [')']))) = some f ↔
      text ≠ [] ∧ ⟨.label .locale, String.ofList text, false⟩ = f := by
  simp [Filter.ofToken?]

end Delimited

theorem ofToken_word {w : List Char} (nonempty : w ≠ []) (letters : ∀ c ∈ w, isLetter c = true) :
    Filter.ofToken? (String.ofList w) = some ⟨.term, String.ofList w, false⟩ := by
  obtain ⟨c, rest, rfl⟩ := List.exists_cons_of_ne_nil nonempty
  have letter := letters c List.mem_cons_self
  have bracket : c ≠ '[' := fun same => by rw [same] at letter; revert letter; decide
  have quote : c ≠ '"' := fun same => by rw [same] at letter; revert letter; decide
  have parenthesis : c ≠ '(' := fun same => by rw [same] at letter; revert letter; decide
  simp [Filter.ofToken?, bracket, quote, parenthesis]

theorem verified_of_ofToken {token : String} {f : Filter} (read : Filter.ofToken? token = some f) :
    f.verified = false := by
  simp only [Filter.ofToken?] at read
  split at read <;> split at read <;> cases read <;> rfl

theorem mem_ofTokens_iff (tokens : List String) (f : Filter) :
    f ∈ Filter.ofTokens tokens ↔ ∃ token ∈ tokens, Filter.ofToken? token = some f := by
  rw [Filter.ofTokens, Filter.distinct, mem_distinctOn_iff, List.mem_filterMap]
  intro a first b second same
  obtain ⟨_, _, readFirst⟩ := List.mem_filterMap.1 first
  obtain ⟨_, _, readSecond⟩ := List.mem_filterMap.1 second
  have unverified := (verified_of_ofToken readFirst).trans (verified_of_ofToken readSecond).symm
  cases a
  cases b
  simp only [Filter.key, Prod.mk.injEq] at same
  simp_all only

theorem read_quoted_iff (query : List Char) (f : Filter) :
    (∃ s ∈ quoted.tokens query, Filter.ofToken? (String.ofList s) = some f) ↔
      Reads query f ∧ f.kind = .definition := by
  simp only [mem_tokens_iff quoted_singles]
  constructor
  · intro held
    rcases held with ⟨_, ⟨u, d, v, occurs, paired, unquoted, rfl⟩, read⟩
    obtain ⟨some, rfl⟩ := ofToken_quoted_iff.1 read
    refine ⟨.definition occurs.split some (fun c member => ⟨?_, ?_⟩) paired, rfl⟩
    · rintro rfl
      exact unquoted member
    · have := occurs.inside c member
      simpa [quoted] using this
  · intro held
    rcases held with ⟨reads, kind⟩
    cases reads with
    | @definition u d v split some plain paired =>
        refine ⟨'"' :: (d ++ ['"']), ⟨u, d, v, ⟨split, ?_, Nat.zero_le _⟩, paired, ?_, rfl⟩, ?_⟩
        · intro c member
          simp [quoted, (plain c member).2]
        · exact fun member => (plain _ member).1 rfl
        · exact ofToken_quoted_iff.2 ⟨some, rfl⟩
    | tag => cases kind
    | locale => cases kind
    | term => cases kind

theorem read_bracketed_iff (query : List Char) (f : Filter) :
    (∃ s ∈ bracketed.tokens query, Filter.ofToken? (String.ofList s) = some f) ↔
      Reads query f ∧ f.kind = .label .tag := by
  simp only [mem_tokens_iff bracketed_singles]
  constructor
  · intro held
    rcases held with ⟨_, ⟨u, t, v, occurs, opens, _, rfl⟩, read⟩
    obtain ⟨some, rfl⟩ := ofToken_bracketed_iff.1 read
    refine ⟨.tag occurs.split some (fun c member => ?_) opens, rfl⟩
    have := occurs.inside c member
    simpa [bracketed] using this
  · intro held
    rcases held with ⟨reads, kind⟩
    cases reads with
    | @tag u t v split some plain opens =>
        refine ⟨'[' :: (t ++ [']']), ⟨u, t, v, ⟨split, ?_, ?_⟩, opens, trivial, rfl⟩, ?_⟩
        · intro c member
          simp [bracketed, plain c member]
        · exact List.length_pos_iff.2 some
        · exact ofToken_bracketed_iff.2 ⟨some, rfl⟩
    | definition => cases kind
    | locale => cases kind
    | term => cases kind

theorem read_parenthesized_iff (query : List Char) (f : Filter) :
    (∃ s ∈ parenthesized.tokens query, Filter.ofToken? (String.ofList s) = some f) ↔
      Reads query f ∧ f.kind = .label .locale := by
  simp only [mem_tokens_iff parenthesized_singles]
  constructor
  · intro held
    rcases held with ⟨_, ⟨u, l, v, occurs, opens, closes, rfl⟩, read⟩
    obtain ⟨some, rfl⟩ := ofToken_parenthesized_iff.1 read
    refine ⟨.locale occurs.split some (fun c member => ?_) opens closes, rfl⟩
    have := occurs.inside c member
    simpa [parenthesized] using this
  · intro held
    rcases held with ⟨reads, kind⟩
    cases reads with
    | @locale u l v split some plain opens closes =>
        refine ⟨'(' :: (l ++ [')']), ⟨u, l, v, ⟨split, ?_, Nat.zero_le _⟩, opens, closes, rfl⟩, ?_⟩
        · intro c member
          simp [parenthesized, plain c member]
        · exact ofToken_parenthesized_iff.2 ⟨some, rfl⟩
    | definition => cases kind
    | tag => cases kind
    | term => cases kind

theorem read_word_iff (query : List Char) (f : Filter) :
    (∃ s ∈ scan word 0 none query, Filter.ofToken? (String.ofList s) = some f) ↔
      Reads query f ∧ f.kind = .term := by
  simp only [mem_scan_word_iff]
  constructor
  · intro held
    rcases held with ⟨w, ⟨u, v, split, nonempty, letters, left, right⟩, read⟩
    rw [ofToken_word nonempty letters] at read
    cases read
    rw [Option.or_none] at left
    exact ⟨.term split nonempty letters left right, rfl⟩
  · intro held
    rcases held with ⟨reads, kind⟩
    cases reads with
    | @term u w v split some letters left right =>
        refine ⟨w, ⟨u, v, split, some, letters, ?_, right⟩, ofToken_word some letters⟩
        rwa [Option.or_none]
    | definition => cases kind
    | tag => cases kind
    | locale => cases kind

theorem read_tokens_iff (query : String) (f : Filter) :
    (∃ token ∈ tokens query, Filter.ofToken? token = some f) ↔
      ∃ p ∈ patterns, ∃ s ∈ scan p 0 none query.toList,
        Filter.ofToken? (String.ofList s) = some f := by
  simp only [tokens, List.mem_flatMap, List.mem_map]
  constructor
  · intro held
    rcases held with ⟨_, ⟨p, member, s, scanned, rfl⟩, read⟩
    exact ⟨p, member, s, scanned, read⟩
  · intro held
    rcases held with ⟨p, member, s, scanned, read⟩
    exact ⟨_, ⟨p, member, s, scanned, rfl⟩, read⟩

theorem mem_parse_iff (query : String) (f : Filter) :
    f ∈ parse query ↔ Reads query.toList f := by
  have quotedIff := read_quoted_iff query.toList f
  have bracketedIff := read_bracketed_iff query.toList f
  have parenthesizedIff := read_parenthesized_iff query.toList f
  have wordIff := read_word_iff query.toList f
  simp only [Delimited.tokens] at quotedIff bracketedIff parenthesizedIff
  simp only [parse, mem_ofTokens_iff, read_tokens_iff, patterns, List.mem_cons, List.not_mem_nil,
    or_false, exists_eq_or_imp, exists_eq_left, quotedIff, bracketedIff, parenthesizedIff, wordIff]
  rw [← and_or_left, ← and_or_left, ← and_or_left]
  refine and_iff_left ?_
  rcases f.kind with _ | (_ | _) | _ <;> simp

theorem nodup_parse (query : String) : (parse query).Nodup := by
  refine (pairwise_distinctOn Filter.key _).imp fun {a b} differ same => ?_
  rw [same] at differ
  exact differ rfl

/-- The parser reads a query exactly as the grammar says, each filter once. -/
theorem parse_reads_grammar (query : String) :
    (parse query).Nodup ∧ ∀ f, f ∈ parse query ↔ Reads query.toList f :=
  ⟨nodup_parse query, mem_parse_iff query⟩

theorem text_ne_of_mem_parse {query : String} {f : Filter} (member : f ∈ parse query) :
    f.text ≠ "" := by
  cases (mem_parse_iff query f).1 member with
  | definition _ some => simpa using some
  | tag _ some => simpa using some
  | locale _ some => simpa using some
  | term _ some => simpa using some

end Glossary.Query
