import Mathlib.Data.List.Forall2
import Mathlib.Data.List.Nodup
import Glossary.Load.Columns

set_option autoImplicit false

namespace Glossary

namespace Column

theorem mem_all (c : Column) : c ∈ all := by
  cases c <;> decide

theorem name_inj {c d : Column} (same : c.name = d.name) : c = d := by
  revert same
  cases c <;> cases d <;> decide

/-- No name is an alias of two columns. -/
theorem eq_of_mem_aliases {c d : Column} {a : String} (first : a ∈ c.aliases)
    (second : a ∈ d.aliases) : c = d := by
  have apart : ∀ a ∈ c.aliases, a ∈ d.aliases → c = d := by
    cases c <;> cases d <;> decide
  exact apart a first second

theorem aliasIn?_of_name_mem {c : Column} {names : List String} (known : c.name ∈ names) :
    c.aliasIn? names = some c.name := by
  cases c <;> exact List.find?_cons_of_pos (List.contains_iff_mem.2 known)

theorem mem_aliases_of_aliasIn? {c : Column} {names : List String} {a : String}
    (chosen : c.aliasIn? names = some a) : a ∈ c.aliases :=
  List.mem_of_find?_eq_some chosen

theorem mem_of_aliasIn? {c : Column} {names : List String} {a : String}
    (chosen : c.aliasIn? names = some a) : a ∈ names :=
  List.contains_iff_mem.1 (List.find?_some chosen)

theorem isSome_aliasIn?_iff {c : Column} {names : List String} :
    (c.aliasIn? names).isSome = true ↔ ∃ a ∈ c.aliases, a ∈ names := by
  simp only [aliasIn?, List.find?_isSome, List.contains_iff_mem]

end Column

/-- A name becomes the name of a standard column exactly if it is the alias chosen for it. -/
theorem standardName_eq_name_iff {names : List String} {n : String} (member : n ∈ names)
    (c : Column) : standardName names n = c.name ↔ c.aliasIn? names = some n := by
  unfold standardName
  cases found : Column.all.find? fun d => d.aliasIn? names == some n with
  | some d =>
      have chosen : d.aliasIn? names = some n := by simpa using List.find?_some found
      constructor
      · intro same
        rwa [← Column.name_inj same]
      · intro other
        have alike := Column.eq_of_mem_aliases (Column.mem_aliases_of_aliasIn? other)
          (Column.mem_aliases_of_aliasIn? chosen)
        rw [alike]
  | none =>
      have unchosen : c.aliasIn? names ≠ some n := by
        have none := List.find?_eq_none.1 found c c.mem_all
        simpa using none
      constructor
      · -- A standard name that stands in the header is the chosen alias of its own column.
        rintro rfl
        exact absurd (Column.aliasIn?_of_name_mem member) unchosen
      · intro chosen
        exact absurd chosen unchosen

theorem mem_standardColumns_iff (columns : List String) (c : Column) :
    c.name ∈ standardColumns columns ↔ (c.aliasIn? (columns.map plainName)).isSome = true := by
  rw [standardColumns, List.mem_map, Option.isSome_iff_exists]
  constructor
  · rintro ⟨n, member, same⟩
    exact ⟨n, (standardName_eq_name_iff member c).1 same⟩
  · rintro ⟨a, chosen⟩
    have member := Column.mem_of_aliasIn? chosen
    exact ⟨a, member, (standardName_eq_name_iff member c).2 chosen⟩

theorem standardName_beq_name {names : List String} {c : Column} {a n : String}
    (chosen : c.aliasIn? names = some a) (member : n ∈ names) :
    (standardName names n == c.name) = (n == a) := by
  rw [Bool.eq_iff_iff, beq_iff_eq, beq_iff_eq, standardName_eq_name_iff member, chosen,
    Option.some.injEq, eq_comm]

theorem standardName_beq_name_of_none {names : List String} {c : Column} {n : String}
    (unchosen : c.aliasIn? names = none) (member : n ∈ names) :
    (standardName names n == c.name) = false := by
  rw [beq_eq_false_iff_ne, Ne, standardName_eq_name_iff member, unchosen]
  exact nofun

theorem findIdx?_congr {α : Type} {p q : α → Bool} {xs : List α} (same : ∀ x ∈ xs, p x = q x) :
    xs.findIdx? p = xs.findIdx? q := by
  induction xs with
  | nil => rfl
  | cons x rest ih =>
      rw [List.findIdx?_cons, List.findIdx?_cons, same x List.mem_cons_self,
        ih fun y inside => same y (List.mem_cons_of_mem x inside)]

/-- A standard column stands where its chosen alias stands. -/
theorem place?_standardColumns (columns : List String) (c : Column) :
    Sheet.place? (standardColumns columns) c.name =
      (c.aliasIn? (columns.map plainName)).bind (Sheet.place? (columns.map plainName)) := by
  rw [Sheet.place?, standardColumns, List.findIdx?_map]
  cases chosen : c.aliasIn? (columns.map plainName) with
  | none =>
      exact List.findIdx?_eq_none_iff.2 fun n member =>
        standardName_beq_name_of_none chosen member
  | some a => exact findIdx?_congr fun n member => standardName_beq_name chosen member

theorem count_standardColumns (columns : List String) (c : Column) :
    (standardColumns columns).count c.name =
      ((c.aliasIn? (columns.map plainName)).map (columns.map plainName).count).getD 0 := by
  rw [List.count_eq_countP, standardColumns, List.countP_map]
  cases chosen : c.aliasIn? (columns.map plainName) with
  | none =>
      refine List.countP_eq_zero.2 fun n member passes => ?_
      rw [Function.comp_apply, standardName_beq_name_of_none chosen member] at passes
      cases passes
  | some a =>
      refine List.countP_congr fun n member => ?_
      rw [Function.comp_apply, standardName_beq_name chosen member]

/-- A standard column is repeated exactly if its chosen alias is. -/
theorem repeats_standardColumns_iff (columns : List String) (c : Column) :
    Sheet.repeats (standardColumns columns) c.name = true ↔
      ∃ a, c.aliasIn? (columns.map plainName) = some a ∧ 1 < (columns.map plainName).count a := by
  rw [Sheet.repeats, count_standardColumns, decide_eq_true_eq]
  cases c.aliasIn? (columns.map plainName) <;> simp

/-- Names that differ are not repeated under standard names. -/
theorem repeats_standardColumns_of_nodup {columns : List String}
    (apart : (columns.map plainName).Nodup) (c : Column) :
    Sheet.repeats (standardColumns columns) c.name = false := by
  rw [← Bool.not_eq_true, repeats_standardColumns_iff]
  rintro ⟨a, -, twice⟩
  have once := List.nodup_iff_count.1 apart a
  omega

theorem standardName_of_unchosen {names : List String} {n : String}
    (unchosen : ∀ c : Column, c.aliasIn? names ≠ some n) : standardName names n = n := by
  have none : (Column.all.find? fun c => c.aliasIn? names == some n) = none := by
    rw [List.find?_eq_none]
    intro c _ chosen
    exact unchosen c (beq_iff_eq.1 chosen)
  rw [standardName, none]

/-- No two names of a header become one. -/
theorem eq_of_standardName_eq {names : List String} {m n : String} (first : m ∈ names)
    (second : n ∈ names) (same : standardName names m = standardName names n) : m = n := by
  by_cases chosen : ∃ c : Column, c.aliasIn? names = some m
  · -- Both become the name of one column, which has one chosen alias.
    obtain ⟨c, chosen⟩ := chosen
    have named : standardName names n = c.name := by
      rw [← same, (standardName_eq_name_iff first c).2 chosen]
    rw [(standardName_eq_name_iff second c).1 named] at chosen
    exact (Option.some.inj chosen).symm
  · have unchosen : ∀ c : Column, c.aliasIn? names ≠ some m := fun c is => chosen ⟨c, is⟩
    have other : ∀ c : Column, c.aliasIn? names ≠ some n := by
      intro c is
      have named : standardName names m = c.name := by
        rw [same, (standardName_eq_name_iff second c).2 is]
      exact unchosen c ((standardName_eq_name_iff first c).1 named)
    rwa [standardName_of_unchosen unchosen, standardName_of_unchosen other] at same

/-- The column goes by an alias: none that is more wanted is among the names. -/
def Column.GoesBy (c : Column) (names : List String) (a : String) : Prop :=
  ∃ before after, c.aliases = before ++ a :: after ∧ a ∈ names ∧ ∀ b ∈ before, b ∉ names

theorem Column.goesBy_iff {c : Column} {names : List String} {a : String} :
    c.GoesBy names a ↔ c.aliasIn? names = some a := by
  simp only [GoesBy, aliasIn?, List.find?_eq_some_iff_append, List.contains_iff_mem,
    Bool.not_eq_true', ← Bool.not_eq_true]
  constructor
  · rintro ⟨before, after, whole, member, absent⟩
    exact ⟨member, before, after, whole, absent⟩
  · rintro ⟨member, before, after, whole, absent⟩
    exact ⟨before, after, whole, member, absent⟩

/-- What a column is labelled in a header with these comparable names: as the standard column that
goes by its name, or else by its own name, made comparable. -/
structure Relabelled (names : List String) (column label : String) : Prop where
  standard : ∀ c : Column, label = c.name ↔ c.GoesBy names (plainName column)
  other : (∀ c : Column, ¬ c.GoesBy names (plainName column)) → label = plainName column

theorem relabelled_standardName {names : List String} {column : String}
    (member : plainName column ∈ names) :
    Relabelled names column (standardName names (plainName column)) where
  standard c := by rw [standardName_eq_name_iff member, Column.goesBy_iff]
  other gone := standardName_of_unchosen fun c chosen => gone c (Column.goesBy_iff.2 chosen)

/-- Standard names never make one column of two. Where the names of a header differ in lower case
and without white space at their ends, they differ under standard names, one for each column and in
the same order. A standard name is there exactly if one of its aliases was, on the column of the
most wanted one, and all other columns keep their names. -/
theorem standardColumns_apart {columns : List String} (apart : (columns.map plainName).Nodup) :
    (standardColumns columns).Nodup ∧
    List.Forall₂ (Relabelled (columns.map plainName)) columns (standardColumns columns) ∧
    ∀ c : Column, c.name ∈ standardColumns columns ↔
      ∃ a ∈ c.aliases, a ∈ columns.map plainName := by
  refine ⟨?_, ?_, fun c => ?_⟩
  · exact apart.map_on fun m first n second => eq_of_standardName_eq first second
  · rw [standardColumns, List.map_map, List.forall₂_map_right_iff, List.forall₂_same]
    intro column member
    exact relabelled_standardName (List.mem_map_of_mem member)
  · rw [mem_standardColumns_iff, Column.isSome_aliasIn?_iff]

/-- A header with two aliases of the column of terms, the less wanted one first. -/
def twoTerms : List String := ["Headword", " ID ", "WORD", "Meaning", "Source"]

/-- The less wanted alias stays beside the standard name. -/
theorem standardColumns_apart_twoTerms :
    (twoTerms.map plainName).Nodup ∧ (standardColumns twoTerms).Nodup ∧
    List.Forall₂ (Relabelled (twoTerms.map plainName)) twoTerms
      ["headword", "entry_id", "term", "definition", "source"] := by
  have apart : (twoTerms.map plainName).Nodup := by decide
  have labels : standardColumns twoTerms =
      ["headword", "entry_id", "term", "definition", "source"] := by decide
  have relabelled := (standardColumns_apart apart).2.1
  rw [labels] at relabelled
  exact ⟨apart, (standardColumns_apart apart).1, relabelled⟩

end Glossary
