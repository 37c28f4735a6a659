import Glossary.Proofs.Filter
import Glossary.Proofs.Query.Written

set_option autoImplicit false

namespace Glossary

open Glossary.Text

namespace Filter

/-- Written behind the one filter, the other closes a delimiter of the kind that the one leaves
open. -/
def ClosedBy (kind : FilterKind) (a b : Filter) : Prop :=
  Query.Opens kind a.written.toList ∧ Query.Shuts kind b.written.toList

def without (filters : List Filter) (dropped : Filter) : List Filter :=
  filters.filter fun g => decide (g ≠ dropped)

end Filter

namespace Query

section Row

variable {filters : List Filter} {g : Filter}

/-- What is written before a filter leaves no delimiter of its kind open, but for brackets in
definitions. -/
theorem not_opens_of_place_le {h : Filter} (proper : h.Proper)
    (place : h.kind.place ≤ g.kind.place)
    (closed : g.kind = .label .tag → h.kind = .definition →
      ¬ Opens (.label .tag) h.written.toList) :
    ¬ Opens g.kind h.written.toList := by
  generalize g.kind = kind at place closed
  rcases kind with _ | (_ | _) | _
  · have same : h.kind = .definition := by
      rcases kindH : h.kind with _ | (_ | _) | _
      · rfl
      all_goals simp [kindH, FilterKind.place] at place
    exact not_opens_written_definition proper same
  · rcases kindH : h.kind with _ | (_ | _) | _
    · exact closed rfl kindH
    · exact not_opens_written_tag kindH
    all_goals simp [kindH, FilterKind.place] at place
  · exact id
  · exact id

/-- A filter in a row is read again. Only a tag may be lost, if a definition before it leaves a
bracket open. -/
theorem reads_write_of_mem (proper : ∀ h ∈ filters, h.Proper) (member : g ∈ filters)
    (closed : g.kind = .label .tag → ∀ h ∈ filters, h.kind = .definition →
      ¬ Opens (.label .tag) h.written.toList) :
    Reads (Filter.write filters " ").toList g := by
  have inRow : g ∈ Filter.sorted filters := (mem_sortBy _ _ g).2 member
  obtain ⟨before, after, row⟩ := List.append_of_mem inRow
  have ordered := Filter.pairwise_sorted filters
  rw [row] at ordered
  rw [Filter.write, row, List.map_append, List.map_cons]
  apply reads_join_of_mem
  · intro text written
    obtain ⟨h, inFront, rfl⟩ := List.mem_map.1 written
    have inside : h ∈ filters := (mem_sortBy _ _ h).1 (by
      change h ∈ Filter.sorted filters
      simp [row, inFront])
    have ahead := (List.pairwise_append.1 ordered).2.2 h inFront g List.mem_cons_self
    have place : h.kind.place ≤ g.kind.place := by
      rcases Filter.comesBefore_iff.1 ahead with below | ⟨same, -⟩ <;> omega
    exact not_opens_of_place_le (proper h inside) place fun tag => closed tag h inside
  · exact reads_written (proper g member)

/-- Filters in a row are read each on its own, unless one closes what one before it leaves open. -/
theorem reads_write_iff (distinct : filters.Nodup)
    (apart : ∀ a ∈ filters, ∀ b ∈ filters, a ≠ b → a.comesBefore b = true →
      ¬ Filter.ClosedBy g.kind a b) :
    Reads (Filter.write filters " ").toList g ↔ ∃ h ∈ filters, Reads h.written.toList g := by
  have differ : (Filter.sorted filters).Nodup := (sortBy_perm _ filters).nodup_iff.2 distinct
  have ordered := (Filter.pairwise_sorted filters).and differ
  have separate : ((Filter.sorted filters).map Filter.written).Pairwise
      fun s t => Opens g.kind s.toList → ¬ Shuts g.kind t.toList := by
    refine List.pairwise_map.2 (ordered.imp_of_mem fun {a b} inA inB both opens shuts => ?_)
    exact apart a ((mem_sortBy _ _ a).1 inA) b ((mem_sortBy _ _ b).1 inB) both.2 both.1
      ⟨opens, shuts⟩
  rw [Filter.write, reads_join_iff separate]
  simp only [List.mem_map, exists_exists_and_eq_and, Filter.sorted, mem_sortBy]

/-- Plain filters in a row are read as they are, and with them the words that stand in their
texts. -/
theorem reads_write_iff_of_plain (distinct : filters.Nodup) (proper : ∀ h ∈ filters, h.Proper)
    (plain : ∀ h ∈ filters, h.Plain) :
    Reads (Filter.write filters " ").toList g ↔
      g ∈ filters ∨ (g.Proper ∧ ∃ h ∈ filters, g.StandsIn h) := by
  have apart : ∀ a ∈ filters, ∀ b ∈ filters, a ≠ b → a.comesBefore b = true →
      ¬ Filter.ClosedBy g.kind a b := fun a inA _ _ _ _ closed =>
    not_opens_of_plain (proper a inA) (plain a inA) g.kind closed.1
  rw [reads_write_iff distinct apart]
  constructor
  · rintro ⟨h, member, reads⟩
    rcases (reads_written_iff (proper h member) (plain h member)).1 reads with
      rfl | ⟨properG, stands⟩
    · exact Or.inl member
    · exact Or.inr ⟨properG, h, member, stands⟩
  · rintro (member | ⟨properG, h, member, stands⟩)
    · exact ⟨g, member, reads_written (proper g member)⟩
    · exact ⟨h, member,
        (reads_written_iff (proper h member) (plain h member)).2 (Or.inr ⟨properG, stands⟩)⟩

end Row

theorem proper_of_mem_parse {query : String} {f : Filter} (member : f ∈ parse query) :
    f.Proper :=
  proper_of_reads ((mem_parse_iff query f).1 member)

theorem mem_parse_of_standsIn {query : String} {g h : Filter} (member : h ∈ parse query)
    (proper : g.Proper) (stands : g.StandsIn h) : g ∈ parse query := by
  rw [mem_parse_iff] at member ⊢
  exact reads_of_standsIn proper stands (text_infix_of_reads member)

/-- A query is read again from its filters where their texts hold no delimiters, whatever else
stood in it. -/
theorem parse_write_perm (query : String) (plain : ∀ f ∈ parse query, f.Plain) :
    (parse (Filter.write (parse query) " ")).Perm (parse query) := by
  refine (List.perm_ext_iff_of_nodup (nodup_parse _) (nodup_parse _)).2 fun g => ?_
  rw [mem_parse_iff, reads_write_iff_of_plain (nodup_parse query)
    (fun h member => proper_of_mem_parse member) plain]
  refine or_iff_left_of_imp fun word => ?_
  obtain ⟨proper, h, member, stands⟩ := word
  exact mem_parse_of_standsIn member proper stands

/-- The order changes, and what was no filter is gone. -/
theorem parse_write_perm_walls :
    (∀ f ∈ parse "wall (en-AU), [fresh water] dam1 \"a dam wall is\"", f.Plain) ∧
    Filter.write (parse "wall (en-AU), [fresh water] dam1 \"a dam wall is\"") " " =
      "\"a dam wall is\" [fresh water] (en-AU) dam wall" ∧
    (parse "\"a dam wall is\" [fresh water] (en-AU) dam wall").Perm
      (parse "wall (en-AU), [fresh water] dam1 \"a dam wall is\"") := by
  have plain : ∀ f ∈ parse "wall (en-AU), [fresh water] dam1 \"a dam wall is\"", f.Plain := by
    decide +kernel
  have written : Filter.write (parse "wall (en-AU), [fresh water] dam1 \"a dam wall is\"") " " =
      "\"a dam wall is\" [fresh water] (en-AU) dam wall" := by
    decide +kernel
  have again := parse_write_perm _ plain
  rw [written] at again
  exact ⟨plain, written, again⟩

theorem mem_without_iff {query : String} {f g : Filter} :
    g ∈ Filter.without (parse query) f ↔ g ∈ parse query ∧ g ≠ f := by
  rw [Filter.without, List.mem_filter, decide_eq_true_eq]

theorem writeWithout?_parse {query : String} {f : Filter} (member : f ∈ parse query)
    (several : 2 ≤ (parse query).length) (separator : String) :
    Filter.writeWithout? (parse query) f separator =
      some (Filter.write (Filter.without (parse query) f) separator) := by
  have same : ∀ g ∈ parse query, decide (g.key ≠ f.key) = decide (g ≠ f) := by
    intro g inside
    have unverified := (proper_of_mem_parse inside).unverified.trans
      (proper_of_mem_parse member).unverified.symm
    have tells : g.key = f.key ↔ g = f := by
      constructor
      · intro keys
        obtain ⟨kinds, texts⟩ := Prod.mk.inj keys
        cases g
        cases f
        simp_all
      · rintro rfl
        rfl
    exact decide_eq_decide.2 (not_congr tells)
  rw [Filter.writeWithout?, if_neg (by omega), Filter.without, List.filter_congr same]

/-- Dropping one of several filters of a query leaves a text, whatever is put between its filters.
Read with spaces between them, the filters that remain come back, but for a tag behind a definition
that leaves a bracket open. A filter is read from the text exactly if it is read from one of them
alone, unless one closes a delimiter of its kind that another before it leaves open. And if their
texts hold no delimiters, exactly the remaining filters come back, and the dropped one just if it is
a term that stands as a word in the text of one that remains. -/
theorem removal_reads_remaining {query : String} {f : Filter} (member : f ∈ parse query)
    (several : 2 ≤ (parse query).length) :
    ∃ texts : List String,
      (∀ separator, Filter.writeWithout? (parse query) f separator = some (join separator texts)) ∧
      (∀ g ∈ Filter.without (parse query) f,
        (g.kind = .label .tag → ∀ h ∈ Filter.without (parse query) f, h.kind = .definition →
          ¬ Opens (.label .tag) h.written.toList) →
        g ∈ parse (join " " texts)) ∧
      (∀ g, (∀ a ∈ Filter.without (parse query) f, ∀ b ∈ Filter.without (parse query) f, a ≠ b →
          a.comesBefore b = true → ¬ Filter.ClosedBy g.kind a b) →
        (g ∈ parse (join " " texts) ↔
          ∃ h ∈ Filter.without (parse query) f, g ∈ parse h.written)) ∧
      ((∀ h ∈ Filter.without (parse query) f, h.Plain) →
        ∀ g, g ∈ parse (join " " texts) ↔ g ∈ parse query ∧
          (g ≠ f ∨ ∃ h ∈ Filter.without (parse query) f, f.StandsIn h)) := by
  have proper : ∀ h ∈ Filter.without (parse query) f, h.Proper := fun h inside =>
    proper_of_mem_parse (mem_without_iff.1 inside).1
  have distinct : (Filter.without (parse query) f).Nodup := (nodup_parse query).filter _
  refine ⟨(Filter.sorted (Filter.without (parse query) f)).map Filter.written,
    writeWithout?_parse member several, fun g inside closed => ?_, fun g apart => ?_,
    fun plain g => ?_⟩
  · exact (mem_parse_iff _ g).2 (reads_write_of_mem proper inside closed)
  · simp only [mem_parse_iff]
    exact reads_write_iff distinct apart
  · rw [mem_parse_iff]
    refine (reads_write_iff_of_plain distinct proper plain).trans ?_
    constructor
    · rintro (inside | ⟨properG, h, inside, stands⟩)
      · obtain ⟨known, other⟩ := mem_without_iff.1 inside
        exact ⟨known, Or.inl other⟩
      · refine ⟨mem_parse_of_standsIn (mem_without_iff.1 inside).1 properG stands, ?_⟩
        by_cases same : g = f
        · exact Or.inr ⟨h, inside, same ▸ stands⟩
        · exact Or.inl same
    · rintro ⟨known, other | ⟨h, inside, stands⟩⟩
      · exact Or.inl (mem_without_iff.2 ⟨known, other⟩)
      · by_cases same : g = f
        · exact Or.inr ⟨proper_of_mem_parse known, h, inside, same ▸ stands⟩
        · exact Or.inl (mem_without_iff.2 ⟨known, same⟩)

/-- A tag of three filters, with another name in quotes. -/
def wallQuery : String := "dam [water] \"a dam wall\""

def damTerm : Filter := ⟨.term, "dam", false⟩

def waterTag : Filter := ⟨.label .tag, "water", false⟩

/-- Without the tag the other two filters are left, and the text for it reads as just these. -/
theorem removal_reads_remaining_walls :
    waterTag ∈ parse wallQuery ∧ 2 ≤ (parse wallQuery).length ∧
    (∀ h ∈ Filter.without (parse wallQuery) waterTag, h.Plain) ∧
    ∃ texts, Filter.writeWithout? (parse wallQuery) waterTag "+" = some (join "+" texts) ∧
      ∀ g, g ∈ parse (join " " texts) ↔ g ∈ parse wallQuery ∧ g ≠ waterTag := by
  have member : waterTag ∈ parse wallQuery := by decide +kernel
  have several : 2 ≤ (parse wallQuery).length := by decide +kernel
  have plain : ∀ h ∈ Filter.without (parse wallQuery) waterTag, h.Plain := by decide +kernel
  obtain ⟨texts, offered, -, -, exactly⟩ := removal_reads_remaining member several
  refine ⟨member, several, plain, texts, offered "+", fun g => ?_⟩
  rw [exactly plain g]
  refine and_congr_right fun _ => or_iff_left fun word => ?_
  obtain ⟨h, -, kind, -⟩ := word
  cases kind

/-- A dropped filter may come back, and others may be lost. The word in quotes is read again from
the text without it, as it is from every query with the quotes; and behind a bracket that a
definition leaves open a tag is read that the query does not have, in place of one that it has. -/
theorem removal_brings_back :
    (damTerm ∈ parse "dam \"a dam wall\"" ∧ 2 ≤ (parse "dam \"a dam wall\"").length ∧
      Filter.writeWithout? (parse "dam \"a dam wall\"") damTerm " " = some "\"a dam wall\"" ∧
      damTerm ∈ parse "\"a dam wall\"") ∧
    (∀ text, ⟨.definition, "a dam wall", false⟩ ∈ parse text → damTerm ∈ parse text) ∧
    (damTerm ∈ parse "[water] \"old [walls\" dam" ∧
      Filter.writeWithout? (parse "[water] \"old [walls\" dam") damTerm " " =
        some "\"old [walls\" [water]" ∧
      waterTag ∈ parse "[water] \"old [walls\" dam" ∧
      waterTag ∉ parse "\"old [walls\" [water]" ∧
      ⟨.label .tag, "walls\" [water", false⟩ ∉ parse "[water] \"old [walls\" dam" ∧
      ⟨.label .tag, "walls\" [water", false⟩ ∈ parse "\"old [walls\" [water]") := by
  refine ⟨by decide +kernel, fun text member => ?_, by decide +kernel⟩
  have proper : damTerm.Proper := ⟨rfl, by decide, List.all_eq_true.1 (by decide)⟩
  have stands : damTerm.StandsIn ⟨.definition, "a dam wall", false⟩ :=
    ⟨rfl, ['a'], ' ', ' ', "wall".toList, by decide, by decide, by decide⟩
  exact mem_parse_of_standsIn member proper stands

end Query

end Glossary
