import Mathlib.Data.Prod.Lex
import Mathlib.Data.String.Basic
import Glossary.Filter

set_option autoImplicit false

namespace Glossary

namespace FilterKind

/-- The kinds by their places in written filters. -/
def inOrder : List FilterKind := [.definition, .label .tag, .label .locale, .term]

theorem map_place_inOrder : inOrder.map place = List.range inOrder.length := rfl

theorem place_lt (kind : FilterKind) : kind.place < inOrder.length := by
  rcases kind with _ | (_ | _) | _ <;> decide

theorem place_inj {a b : FilterKind} (same : a.place = b.place) : a = b := by
  rcases a with _ | (_ | _) | _ <;> rcases b with _ | (_ | _) | _ <;> first | rfl | cases same

end FilterKind

namespace Filter

/-- What is written for a key. -/
def rendered (k : FilterKind × String) : String := k.1.delimiters.1 ++ k.2 ++ k.1.delimiters.2

def keyBefore (k l : FilterKind × String) : Bool :=
  decide (k.1.place < l.1.place) ||
    (decide (k.1.place = l.1.place) && decide (k.2 ≤ l.2))

section Order

variable {k l : FilterKind × String}

theorem keyBefore_iff : keyBefore k l = true ↔
    k.1.place < l.1.place ∨ k.1.place = l.1.place ∧ k.2 ≤ l.2 := by
  simp only [keyBefore, Bool.or_eq_true, Bool.and_eq_true, decide_eq_true_eq]

theorem keyBefore_iff_toLex :
    keyBefore k l = true ↔ toLex (k.1.place, k.2) ≤ toLex (l.1.place, l.2) := by
  rw [keyBefore_iff, Prod.Lex.toLex_le_toLex]

theorem keyBefore_total (k l : FilterKind × String) :
    keyBefore k l = true ∨ keyBefore l k = true := by
  rw [keyBefore_iff_toLex, keyBefore_iff_toLex]
  exact le_total _ _

theorem keyBefore_trans (k l n : FilterKind × String) (first : keyBefore k l = true)
    (second : keyBefore l n = true) : keyBefore k n = true := by
  rw [keyBefore_iff_toLex] at first second ⊢
  exact le_trans first second

theorem keyBefore_antisymm (first : keyBefore k l = true) (second : keyBefore l k = true) :
    k = l := by
  rw [keyBefore_iff_toLex] at first second
  have same := Prod.mk.inj (toLex_inj.1 (le_antisymm first second))
  exact Prod.ext (FilterKind.place_inj same.1) same.2

end Order

theorem keyBefore_key (a b : Filter) : keyBefore a.key b.key = comesBefore a b := rfl

theorem comesBefore_iff {a b : Filter} : comesBefore a b = true ↔
    a.kind.place < b.kind.place ∨ a.kind.place = b.kind.place ∧ a.text ≤ b.text :=
  keyBefore_iff (k := a.key) (l := b.key)

theorem pairwise_sorted (filters : List Filter) :
    (sorted filters).Pairwise fun a b => comesBefore a b = true :=
  pairwise_sortBy (fun a b => keyBefore_total a.key b.key)
    (fun a b c => keyBefore_trans a.key b.key c.key) filters

theorem write_eq (filters : List Filter) (separator : String) :
    write filters separator =
      separator.intercalate ((sortBy keyBefore (filters.map key)).map rendered) := by
  have keys : (sortBy comesBefore filters).map key = sortBy keyBefore (filters.map key) :=
    map_sortBy keyBefore_key filters
  rw [write, Text.join_eq_intercalate, ← keys, List.map_map]
  rfl

/-- The texts of keys of one kind, in ascending order. -/
def textsOf (kind : FilterKind) (keys : List (FilterKind × String)) : List String :=
  ((sortBy keyBefore keys).filter fun k => decide (k.1 = kind)).map (·.2)

theorem pairwise_textsOf (kind : FilterKind) (keys : List (FilterKind × String)) :
    (textsOf kind keys).Pairwise (· ≤ ·) := by
  have ordered := (pairwise_sortBy keyBefore_total keyBefore_trans keys).filter
    fun k => decide (k.1 = kind)
  refine List.pairwise_map.2 (ordered.imp_of_mem fun {k l} inK inL before => ?_)
  have kindK : k.1 = kind := of_decide_eq_true (List.mem_filter.1 inK).2
  have kindL : l.1 = kind := of_decide_eq_true (List.mem_filter.1 inL).2
  rw [keyBefore_iff, kindK, kindL] at before
  exact (before.resolve_left (Nat.lt_irrefl _)).2

theorem textsOf_perm (kind : FilterKind) (filters : List Filter) :
    (textsOf kind (filters.map key)).Perm
      ((filters.filter fun f => decide (f.kind = kind)).map (·.text)) := by
  have order := ((sortBy_perm keyBefore (filters.map key)).filter
    fun k => decide (k.1 = kind)).map (·.2)
  rw [List.filter_map, List.map_map] at order
  exact order

/-- Keys in order are those of the definitions, then those of the tags, the locales and the
terms. -/
theorem sortBy_keyBefore_eq (keys : List (FilterKind × String)) :
    sortBy keyBefore keys = FilterKind.inOrder.flatMap fun kind =>
      (sortBy keyBefore keys).filter fun k => decide (k.1 = kind) := by
  have ordered : (sortBy keyBefore keys).Pairwise fun k l => k.1.place ≤ l.1.place := by
    refine (pairwise_sortBy keyBefore_total keyBefore_trans keys).imp fun before => ?_
    rcases keyBefore_iff.1 before with less | ⟨same, -⟩ <;> omega
  have tells : ∀ (k : FilterKind × String) (kind : FilterKind),
      decide (k.1.place = kind.place) = decide (k.1 = kind) := fun k kind =>
    decide_eq_decide.2 ⟨FilterKind.place_inj, congrArg FilterKind.place⟩
  have groups := flatMap_filter_eq_of_pairwise ordered FilterKind.inOrder.length
  rw [← FilterKind.map_place_inOrder, List.flatMap_map,
    List.filter_eq_self.2 fun k _ => decide_eq_true k.1.place_lt] at groups
  simp only [tells] at groups
  exact groups.symm

theorem map_rendered_sortBy (keys : List (FilterKind × String)) :
    (sortBy keyBefore keys).map rendered = FilterKind.inOrder.flatMap fun kind =>
      (textsOf kind keys).map fun text => rendered (kind, text) := by
  have each : ∀ kind, ((sortBy keyBefore keys).filter fun k => decide (k.1 = kind)).map rendered =
      (textsOf kind keys).map fun text => rendered (kind, text) := by
    intro kind
    rw [textsOf, List.map_map]
    refine List.map_congr_left fun k member => ?_
    obtain rfl : k.1 = kind := of_decide_eq_true (List.mem_filter.1 member).2
    rfl
  have groups := congrArg (List.map rendered) (sortBy_keyBefore_eq keys)
  rw [List.map_flatMap] at groups
  simp only [each] at groups
  exact groups

/-- Filters are written in one way, whatever order they are in and whether they were verified:
definitions in quotes, then tags in brackets, then locales in parentheses, then terms, the texts of
each kind in ascending order and as often as they occur. -/
theorem write_canonical (filters : List Filter) (separator : String) :
    (∀ others : List Filter, (others.map key).Perm (filters.map key) →
      write others separator = write filters separator) ∧
    ∃ texts : FilterKind → List String,
      (∀ kind, (texts kind).Pairwise (· ≤ ·) ∧
        (texts kind).Perm ((filters.filter fun f => decide (f.kind = kind)).map (·.text))) ∧
      write filters separator = separator.intercalate
        ((texts .definition).map (fun text => "\"" ++ text ++ "\"") ++
          (texts (.label .tag)).map (fun text => "[" ++ text ++ "]") ++
          (texts (.label .locale)).map (fun text => "(" ++ text ++ ")") ++ texts .term) := by
  refine ⟨fun others order => ?_, fun kind => textsOf kind (filters.map key),
    fun kind => ⟨pairwise_textsOf kind _, textsOf_perm kind filters⟩, ?_⟩
  · rw [write_eq, write_eq, sortBy_eq_of_perm keyBefore_total keyBefore_trans
      (fun k _ l _ => keyBefore_antisymm) order]
  · have bare : (textsOf .term (filters.map key)).map (fun text => rendered (.term, text)) =
        textsOf .term (filters.map key) := by
      simp [rendered, FilterKind.delimiters]
    rw [write_eq, map_rendered_sortBy, FilterKind.inOrder]
    simp only [List.flatMap_cons, List.flatMap_nil, bare, List.append_nil, List.append_assoc]
    rfl

/-- A tag twice, once verified, and two terms. -/
def waterTwice : List Filter :=
  [⟨.term, "dam", false⟩, ⟨.label .tag, "water", true⟩, ⟨.term, "Dam", true⟩,
    ⟨.label .tag, "water", false⟩]

/-- In another order, with none verified, they are written alike. -/
theorem write_canonical_twice :
    (((waterTwice.reverse.map fun f => { f with verified := false }).map key).Perm
      (waterTwice.map key)) ∧
    write (waterTwice.reverse.map fun f => { f with verified := false }) "+" =
      write waterTwice "+" ∧
    write waterTwice "+" = "[water]+[water]+Dam+dam" := by
  have same : ((waterTwice.reverse.map fun f => { f with verified := false }).map key).Perm
      (waterTwice.map key) := by decide
  exact ⟨same, (write_canonical waterTwice "+").1 _ same, by decide⟩

end Filter

end Glossary
